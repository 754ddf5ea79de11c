import DocAudit.Validator.Set

/-!
# Names in a set of validators

Since the index of a set leads from a name to one place, the names are pairwise different, and
a condition that fixes the name selects one validator.
-/

namespace DocAudit

namespace ValidatorSet

theorem nodup_names (s : ValidatorSet) : (s.validators.map (·.name)).Nodup := by
  rw [List.nodup_iff_pairwise_ne, List.pairwise_iff_getElem]
  intro i j hi hj hij heq
  have h₁ := (s.index_iff _ i).2 (List.getElem?_eq_getElem hi)
  have h₂ := (s.index_iff _ j).2 (List.getElem?_eq_getElem hj)
  rw [heq, h₂] at h₁
  exact absurd (Option.some.inj h₁) (by omega)

theorem eq_of_name_eq (s : ValidatorSet) {u v : Validator} (hu : u ∈ s.validators)
    (hv : v ∈ s.validators) (h : u.name = v.name) : u = v := by
  obtain ⟨i, hi, rfl⟩ := List.getElem_of_mem hu
  obtain ⟨j, hj, rfl⟩ := List.getElem_of_mem hv
  have h₁ := (s.index_iff (s.validators[i]).name i).2 (by simp [hi])
  have h₂ := (s.index_iff (s.validators[i]).name j).2 (by simp [hj, h])
  rw [h₁] at h₂
  cases h₂
  rfl

theorem filter_eq_singleton (s : ValidatorSet) {p : Validator → Bool} {v : Validator}
    (hv : v ∈ s.validators) (hp : p v = true) (hname : ∀ u, p u = true → u.name = v.name) :
    s.validators.filter p = [v] := by
  have hall : ∀ u ∈ s.validators.filter p, u = v := fun u hu => by
    obtain ⟨hm, hpu⟩ := List.mem_filter.1 hu
    exact s.eq_of_name_eq hm hv (hname u hpu)
  have hnodup : ((s.validators.filter p).map (·.name)).Nodup :=
    s.nodup_names.sublist (List.filter_sublist.map _)
  have hmem : v ∈ s.validators.filter p := List.mem_filter.2 ⟨hv, hp⟩
  match hf : s.validators.filter p with
  | [] => rw [hf] at hmem; cases hmem
  | [u] => rw [hall u (by rw [hf]; simp)]
  | u :: w :: rest =>
    rw [hall u (by rw [hf]; simp), hall w (by rw [hf]; simp)] at hf
    rw [hf] at hnodup
    simp at hnodup

end ValidatorSet

end DocAudit
