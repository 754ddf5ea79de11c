import DocAudit.Proofs.Validator.Set
import DocAudit.Runner
import Mathlib.Data.List.Induction

/-!
# Registration as an ordered map

A set of validators keeps two things that are changed apart: the list of the validators, and an
index from names to places in the list.  A new name adds to both, and a name that comes again
changes the list alone.  `registrations_form_ordered_map` says what any number of registrations
lead to, also those made while a runner is set up: an ordered map, in which each name stands where
it was first registered and has the validator that was registered last.

The type of a set promises that the index leads to the right places, and its operations go on if
it does not.  `Table` has the same two parts without the promise, and its operations fail at a
place outside the list; that they never do is part of the result.
-/

namespace DocAudit

namespace ValidatorSet

variable {s : ValidatorSet} {v : Validator} {name : String} {i : Nat}

/-! ## Tables -/

/-- A list of validators, and an index that need not lead into it. -/
structure Table where
  validators : List Validator := []
  index : List (String × Nat) := []

/-- Registers a validator, unless the index leads outside the list. -/
def Table.register? (t : Table) (v : Validator) : Option Table :=
  match Assoc.get? v.name t.index with
  | some i =>
    if i < t.validators.length then some { t with validators := t.validators.set i v } else none
  | none => some ⟨t.validators ++ [v], Assoc.insert v.name t.validators.length t.index⟩

/-- The validator of a name, if there is one, unless the index leads outside the list. -/
def Table.lookup? (t : Table) (name : String) : Option (Option Validator) :=
  match Assoc.get? name t.index with
  | some i => t.validators[i]?.map some
  | none => some none

/-- The two parts of a set. -/
def table (s : ValidatorSet) : Table := ⟨s.validators, s.index⟩

/-! ## One registration -/

theorem lt_of_get?_index (h : Assoc.get? name s.index = some i) : i < s.validators.length := by
  obtain ⟨hlt, _⟩ := List.getElem?_eq_some_iff.1 ((s.index_iff name i).1 h)
  rwa [List.length_map] at hlt

theorem get?_index_eq_none_iff : Assoc.get? name s.index = none ↔ name ∉ s.names := by
  constructor
  · intro h hmem
    obtain ⟨i, hi⟩ := List.mem_iff_getElem?.1 hmem
    rw [(s.index_iff name i).2 hi] at h
    cases h
  · intro h
    cases hi : Assoc.get? name s.index with
    | none => rfl
    | some i => exact absurd (List.mem_of_getElem? ((s.index_iff name i).1 hi)) h

/-- A name that comes again changes the list alone. -/
theorem register_of_some (h : Assoc.get? v.name s.index = some i) :
    (s.register v).validators = s.validators.set i v ∧ (s.register v).index = s.index := by
  unfold register
  split
  · rename_i j hj
    rw [h] at hj
    cases hj
    exact ⟨rfl, rfl⟩
  · rename_i hnone
    rw [h] at hnone
    cases hnone

/-- A new name adds to both. -/
theorem register_of_none (h : Assoc.get? v.name s.index = none) :
    (s.register v).validators = s.validators ++ [v] ∧
      (s.register v).index = Assoc.insert v.name s.validators.length s.index := by
  unfold register
  split
  · rename_i j hj
    rw [h] at hj
    cases hj
  · exact ⟨rfl, rfl⟩

/-- A registration stays inside the list. -/
theorem register?_table (s : ValidatorSet) (v : Validator) :
    s.table.register? v = some (s.register v).table := by
  unfold Table.register? table
  cases h : Assoc.get? v.name s.index with
  | some i =>
    have hlt : i < s.validators.length := lt_of_get?_index h
    rw [(register_of_some h).1, (register_of_some h).2]
    simp only [if_pos hlt]
  | none => rw [(register_of_none h).1, (register_of_none h).2]

/-- A look-up stays inside the list. -/
theorem lookup?_table (s : ValidatorSet) (name : String) :
    s.table.lookup? name = some (s.get? name) := by
  unfold Table.lookup? get? table
  cases h : Assoc.get? name s.index with
  | some i =>
    have hlt : i < s.validators.length := lt_of_get?_index h
    simp [List.getElem?_eq_getElem hlt]
  | none => rfl

/-- A name that comes again keeps its place, and a new one comes last. -/
theorem names_register (s : ValidatorSet) (v : Validator) :
    (s.register v).names = if v.name ∈ s.names then s.names else s.names ++ [v.name] := by
  cases h : Assoc.get? v.name s.index with
  | some i =>
    have hmem : v.name ∈ s.names := List.mem_of_getElem? ((s.index_iff _ i).1 h)
    rw [if_pos hmem]
    unfold names
    rw [(register_of_some h).1, s.names_set h]
  | none =>
    have hnew : v.name ∉ s.names := get?_index_eq_none_iff.1 h
    rw [if_neg hnew]
    unfold names
    rw [(register_of_none h).1, List.map_append, List.map_singleton]

/-- The new validator is found under its name, and all others as before. -/
theorem get?_register (s : ValidatorSet) (v : Validator) (name : String) :
    (s.register v).get? name = if v.name = name then some v else s.get? name := by
  show (Assoc.get? name (s.register v).index).bind (fun i => (s.register v).validators[i]?) =
    if v.name = name then some v else (Assoc.get? name s.index).bind fun i => s.validators[i]?
  cases h : Assoc.get? v.name s.index with
  | some i =>
    have hlt : i < s.validators.length := lt_of_get?_index h
    rw [(register_of_some h).1, (register_of_some h).2]
    by_cases hname : v.name = name
    · subst hname
      simp [h, hlt]
    · rw [if_neg hname]
      cases hj : Assoc.get? name s.index with
      | none => rfl
      | some j =>
        -- different names have different places
        have hne : i ≠ j := by
          rintro rfl
          have hi := (s.index_iff v.name i).1 h
          rw [(s.index_iff name i).1 hj] at hi
          exact hname (Option.some.inj hi).symm
        simp [List.getElem?_set_ne hne]
  | none =>
    rw [(register_of_none h).1, (register_of_none h).2, Assoc.get?_insert]
    by_cases hname : v.name = name
    · simp [hname]
    · rw [if_neg hname, if_neg hname]
      cases hj : Assoc.get? name s.index with
      | none => rfl
      | some j =>
        have hlt : j < s.validators.length := lt_of_get?_index hj
        simp [List.getElem?_append_left hlt]

/-- A place is not given up. -/
theorem get?_index_register (v : Validator) (h : Assoc.get? name s.index = some i) :
    Assoc.get? name (s.register v).index = some i := by
  cases hv : Assoc.get? v.name s.index with
  | some j => rw [(register_of_some hv).2, h]
  | none =>
    have hne : v.name ≠ name := by
      rintro rfl
      rw [hv] at h
      cases h
    rw [(register_of_none hv).2, Assoc.get?_insert, if_neg hne, h]

theorem get?_index_register_self (h : v.name ∉ s.names) :
    Assoc.get? v.name (s.register v).index = some s.size := by
  rw [(register_of_none (get?_index_eq_none_iff.2 h)).2, Assoc.get?_insert, if_pos rfl]
  rfl

/-- The index has as many entries as there are validators, and a look-up finds each of them. -/
structure Tidy (s : ValidatorSet) : Prop where
  length_eq : s.index.length = s.validators.length
  found : ∀ e ∈ s.index, Assoc.get? e.1 s.index = some e.2

theorem Tidy.register (h : s.Tidy) (v : Validator) : (s.register v).Tidy := by
  cases hv : Assoc.get? v.name s.index with
  | some i =>
    constructor
    · rw [(register_of_some hv).1, (register_of_some hv).2, List.length_set, h.length_eq]
    · rw [(register_of_some hv).2]
      exact h.found
  | none =>
    have hperm := Assoc.insert_perm s.validators.length hv
    constructor
    · rw [(register_of_none hv).1, (register_of_none hv).2, hperm.length_eq, List.length_cons,
        h.length_eq, List.length_append, List.length_singleton]
    · intro e he
      rw [(register_of_none hv).2] at he
      rcases List.mem_cons.1 (hperm.mem_iff.1 he) with rfl | hold
      · exact get?_index_register_self (get?_index_eq_none_iff.1 hv)
      · exact get?_index_register v (h.found e hold)

theorem Tidy.exists_validator (h : s.Tidy) {e : String × Nat} (he : e ∈ s.index) :
    ∃ v, s.validators[e.2]? = some v ∧ v.name = e.1 := by
  have hplace := (s.index_iff e.1 e.2).1 (h.found e he)
  rw [List.getElem?_map] at hplace
  exact Option.map_eq_some_iff.1 hplace

/-! ## Any number of registrations -/

theorem ofList_append_singleton (vs : List Validator) (v : Validator) :
    ofList (vs ++ [v]) = (ofList vs).register v :=
  List.foldl_append

theorem tidy_ofList (vs : List Validator) : (ofList vs).Tidy := by
  induction vs using List.reverseRecOn with
  | nil =>
    constructor
    · rfl
    · intro e he
      cases he
  | append_singleton vs v ih =>
    rw [ofList_append_singleton]
    exact ih.register v

theorem foldlM_register? (vs : List Validator) :
    vs.foldlM Table.register? {} = some (ofList vs).table := by
  induction vs using List.reverseRecOn with
  | nil => rfl
  | append_singleton vs v ih =>
    rw [List.foldlM_append, ih, ofList_append_singleton, ← register?_table]
    simp

/-- The names are those of the first registrations. -/
theorem names_ofList (vs : List Validator) :
    (ofList vs).names = (vs.map (·.name)).eraseDups := by
  induction vs using List.reverseRecOn with
  | nil => rfl
  | append_singleton vs v ih =>
    rw [ofList_append_singleton, names_register, ih, List.map_append, List.eraseDups_append]
    by_cases hmem : v.name ∈ vs.map (·.name)
    · rw [if_pos (List.mem_eraseDups.2 hmem)]
      have hgone : [v.name].removeAll (vs.map (·.name)) = [] := by simpa [List.removeAll] using hmem
      rw [List.map_singleton, hgone]
      simp
    · rw [if_neg (mt List.mem_eraseDups.1 hmem)]
      have hstays : [v.name].removeAll (vs.map (·.name)) = [v.name] := by
        simpa [List.removeAll] using hmem
      rw [List.map_singleton, hstays]
      simp [List.eraseDups_cons]

/-- The last registration of a name counts. -/
theorem get?_ofList (vs : List Validator) (name : String) :
    (ofList vs).get? name = (vs.filter (·.name = name)).getLast? := by
  induction vs using List.reverseRecOn with
  | nil => rfl
  | append_singleton vs v ih =>
    rw [ofList_append_singleton, get?_register, ih, List.filter_append]
    by_cases hname : v.name = name
    · simp [hname]
    · simp [hname]

theorem get?_index_foldl : ∀ (ws : List Validator) {s : ValidatorSet},
    Assoc.get? name s.index = some i → Assoc.get? name (ws.foldl register s).index = some i
  | [], _, h => h
  | w :: ws, _, h => get?_index_foldl ws (get?_index_register w h)

/-- A name stays where its first registration has put it, behind all names before. -/
theorem getElem?_ofList_of_first {us ws : List Validator} (h : v.name ∉ us.map (·.name)) :
    (ofList (us ++ v :: ws)).validators[(us.map (·.name)).eraseDups.length]? =
      (ofList (us ++ v :: ws)).get? v.name := by
  have hnew : v.name ∉ (ofList us).names := by
    rw [names_ofList, List.mem_eraseDups]
    exact h
  have hsize : (us.map (·.name)).eraseDups.length = (ofList us).size := by
    rw [← names_ofList]
    exact List.length_map _
  have hsplit : ofList (us ++ v :: ws) = ws.foldl register ((ofList us).register v) :=
    List.foldl_append
  have hplace := get?_index_foldl ws (get?_index_register_self hnew)
  rw [← hsplit, ← hsize] at hplace
  show _ = (Assoc.get? v.name _).bind _
  rw [hplace]
  rfl

/-- What a set is after the validators `vs` have been registered in turn. -/
structure IsOrderedMapOf (vs : List Validator) (s : ValidatorSet) : Prop where
  /-- The index is as long as the list. -/
  length_index : s.index.length = s.validators.length
  /-- Each entry of the index leads to a validator of its name. -/
  entry : ∀ e ∈ s.index, ∃ v, s.validators[e.2]? = some v ∧ v.name = e.1
  nodup : s.names.Nodup
  /-- No registration has used a place outside the list. -/
  registered : vs.foldlM Table.register? {} = some s.table
  /-- No look-up uses a place outside the list. -/
  lookup : ∀ name, s.table.lookup? name = some (s.get? name)
  /-- The names are in the order of their first registrations. -/
  names : s.names = (vs.map (·.name)).eraseDups
  /-- The validator of a name is the one that was registered last, if any. -/
  get : ∀ name, s.get? name = (vs.filter (·.name = name)).getLast?
  /-- It stands behind the names that had been registered before its own came first. -/
  place : ∀ us v ws, vs = us ++ v :: ws → v.name ∉ us.map (·.name) →
    s.validators[(us.map (·.name)).eraseDups.length]? = s.get? v.name

theorem isOrderedMapOf_ofList (vs : List Validator) : IsOrderedMapOf vs (ofList vs) where
  length_index := (tidy_ofList vs).length_eq
  entry _ he := (tidy_ofList vs).exists_validator he
  nodup := (ofList vs).nodup_names
  registered := foldlM_register? vs
  lookup := (ofList vs).lookup?_table
  names := names_ofList vs
  get := get?_ofList vs
  place us v ws hvs hfirst := by
    subst hvs
    exact getElem?_ofList_of_first hfirst

end ValidatorSet

namespace Runner

/-! ## Setting up a runner -/

/-- A step in the choice of a runner's validators. -/
inductive SetUp where
  | register (v : Validator)
  /-- Puts the set of the given validators in place of those so far. -/
  | replace (vs : List Validator)

/-- The runner after one more step. -/
def setUp (r : Runner) : SetUp → Runner
  | .register v => r.register v
  | .replace vs => r.withValidators (.ofList vs)

/-- The registrations that count after one more step, of those that counted before. -/
def registrations (vs : List Validator) : SetUp → List Validator
  | .register v => vs ++ [v]
  | .replace us => us

theorem validators_setUp {r : Runner} {vs : List Validator} (h : r.validators = .ofList vs)
    (step : SetUp) : (r.setUp step).validators = .ofList (registrations vs step) := by
  cases step with
  | register v =>
    show r.validators.register v = .ofList (vs ++ [v])
    rw [h, ValidatorSet.ofList_append_singleton]
  | replace us => rfl

theorem validators_foldl_setUp : ∀ (steps : List SetUp) {r : Runner} {vs : List Validator},
    r.validators = .ofList vs →
      (steps.foldl setUp r).validators = .ofList (steps.foldl registrations vs)
  | [], _, _, h => h
  | step :: steps, _, _, h => validators_foldl_setUp steps (validators_setUp h step)

end Runner

/-- **Registered validators form an ordered map.**  This holds for any sequence of registrations
    in an empty set, and for those that count when a runner without validators is set up. -/
theorem ValidatorSet.registrations_form_ordered_map :
    (∀ vs : List Validator, IsOrderedMapOf vs (ofList vs)) ∧
      ∀ (r : Runner) (steps : List Runner.SetUp),
        IsOrderedMapOf (steps.foldl Runner.registrations [])
          (steps.foldl Runner.setUp (r.withValidators (ofList []))).validators := by
  constructor
  · exact isOrderedMapOf_ofList
  · intro r steps
    have hempty : (r.withValidators (ofList [])).validators = ofList [] := rfl
    rw [Runner.validators_foldl_setUp steps hempty]
    exact isOrderedMapOf_ofList _

end DocAudit
