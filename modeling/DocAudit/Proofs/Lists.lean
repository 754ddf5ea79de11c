/-!
# Facts about lists and failures

What the other modules need about lists and results of any kind: traversals that may fail, and where
the elements of a combined list come from.
-/

namespace DocAudit

variable {α β γ ε : Type}

theorem eq_ok_of_toOption {x : Except ε α} {a : α} (h : x.toOption = some a) : x = .ok a := by
  cases x with
  | error e => cases h
  | ok b =>
    cases h
    rfl

/-! ## Traversals -/

theorem mapM_cons_eq_ok_iff {f : α → Except ε β} {x : α} {xs : List α} {zs : List β} :
    (x :: xs).mapM f = .ok zs ↔ ∃ y ys, f x = .ok y ∧ xs.mapM f = .ok ys ∧ zs = y :: ys := by
  rw [List.mapM_cons]
  cases hx : f x with
  | error e =>
    refine ⟨fun h => (by cases h), ?_⟩
    rintro ⟨y, ys, hy, _, _⟩
    cases hy
  | ok y =>
    cases hxs : xs.mapM f with
    | error e =>
      refine ⟨fun h => (by cases h), ?_⟩
      rintro ⟨_, ys, _, hys, _⟩
      cases hys
    | ok ys =>
      constructor
      · intro h
        cases h
        exact ⟨y, ys, rfl, rfl, rfl⟩
      · rintro ⟨_, _, ⟨⟩, ⟨⟩, rfl⟩
        rfl

/-- A traversal that succeeds has succeeded at every element. -/
theorem mapM_eq_ok_iff {f : α → Except ε β} {xs : List α} {ys : List β} :
    xs.mapM f = .ok ys ↔ xs.map f = ys.map .ok := by
  induction xs generalizing ys with
  | nil =>
    cases ys with
    | nil => exact ⟨fun _ => rfl, fun _ => rfl⟩
    | cons y ys => exact ⟨fun h => (by cases h), fun h => (by cases h)⟩
  | cons x xs ih =>
    rw [mapM_cons_eq_ok_iff]
    constructor
    · rintro ⟨y, ys, hy, hys, rfl⟩
      rw [List.map_cons, hy, ih.1 hys, List.map_cons]
    · intro h
      cases ys with
      | nil => cases h
      | cons y ys =>
        exact ⟨y, ys, List.head_eq_of_cons_eq h, ih.2 (List.tail_eq_of_cons_eq h), rfl⟩

theorem exists_mapM_eq_ok_iff {f : α → Except ε β} {xs : List α} :
    (∃ ys, xs.mapM f = .ok ys) ↔ ∀ x ∈ xs, ∃ y, f x = .ok y := by
  constructor
  · rintro ⟨ys, h⟩ x hx
    have hfx : f x ∈ ys.map .ok := mapM_eq_ok_iff.1 h ▸ List.mem_map_of_mem hx
    obtain ⟨y, _, hy⟩ := List.mem_map.1 hfx
    exact ⟨y, hy.symm⟩
  · intro h
    induction xs with
    | nil => exact ⟨[], rfl⟩
    | cons x xs ih =>
      obtain ⟨y, hy⟩ := h x List.mem_cons_self
      obtain ⟨ys, hys⟩ := ih fun z hz => h z (List.mem_cons_of_mem x hz)
      exact ⟨y :: ys, mapM_cons_eq_ok_iff.2 ⟨y, ys, hy, hys, rfl⟩⟩

/-! ## Elements -/

theorem getElem?_append_of_some {xs ys : List α} {i : Nat} {x : α} (h : xs[i]? = some x) :
    (xs ++ ys)[i]? = some x := by
  obtain ⟨hlt, _⟩ := List.getElem?_eq_some_iff.1 h
  rw [List.getElem?_append_left hlt, h]

theorem exists_of_mem_zipWith {f : α → β → γ} {as : List α} {bs : List β} {c : γ}
    (h : c ∈ List.zipWith f as bs) : ∃ a ∈ as, ∃ b ∈ bs, f a b = c := by
  rw [← List.map_uncurry_zip_eq_zipWith] at h
  obtain ⟨⟨a, b⟩, hzip, rfl⟩ := List.mem_map.1 h
  exact ⟨a, (List.of_mem_zip hzip).1, b, (List.of_mem_zip hzip).2, rfl⟩

/-- What is looked for is found no later than where it stands. -/
theorem exists_findIdx?_le {p : α → Bool} {x : α} (hx : p x = true) :
    ∀ xs ys : List α, ∃ i ≤ xs.length, (xs ++ x :: ys).findIdx? p = some i
  | [], ys => ⟨0, Nat.le_refl 0, by rw [List.nil_append, List.findIdx?_cons, if_pos hx]⟩
  | y :: xs, ys => by
    rw [List.cons_append, List.findIdx?_cons]
    by_cases hy : p y = true
    · exact ⟨0, Nat.zero_le _, if_pos hy⟩
    · obtain ⟨i, hle, hi⟩ := exists_findIdx?_le hx xs ys
      refine ⟨i + 1, Nat.succ_le_succ hle, ?_⟩
      rw [if_neg hy, hi]
      rfl

end DocAudit
