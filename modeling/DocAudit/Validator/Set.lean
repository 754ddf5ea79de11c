import DocAudit.Validator

/-!
# Sets of validators

Validators are kept in the order of their first registration.  Registering a name again replaces
the validator in its place.  An index from names to places speeds up the look-up; that it leads to
the right places is part of the type, and so no two validators have the same name.
-/

namespace DocAudit

/-- Validators in order, with an index by name. -/
structure ValidatorSet where
  validators : List Validator := []
  /-- The place of each name in the list. -/
  index : List (String × Nat) := []
  /-- The index leads from a name to the place of the validator with that name. -/
  index_iff : ∀ name i,
      Assoc.get? name index = some i ↔ (validators.map (·.name))[i]? = some name := by simp

namespace ValidatorSet

theorem names_set (s : ValidatorSet) {v : Validator} {i : Nat}
    (h : Assoc.get? v.name s.index = some i) :
    (s.validators.set i v).map (·.name) = s.validators.map (·.name) := by
  have hi := (s.index_iff _ _).1 h
  obtain ⟨hlt, hn⟩ := List.getElem?_eq_some_iff.1 hi
  rw [List.map_set, ← hn, List.set_getElem_self]

theorem index_iff_append (s : ValidatorSet) {v : Validator}
    (h : Assoc.get? v.name s.index = none) (name : String) (i : Nat) :
    Assoc.get? name (Assoc.insert v.name s.validators.length s.index) = some i ↔
      ((s.validators ++ [v]).map (·.name))[i]? = some name := by
  rw [Assoc.get?_insert, List.map_append, List.map_singleton]
  have hlen : (s.validators.map (·.name)).length = s.validators.length := List.length_map _
  by_cases hn : v.name = name
  · have hold : ∀ j, (s.validators.map (·.name))[j]? ≠ some name := fun j hj => by
      rw [← s.index_iff, ← hn, h] at hj
      cases hj
    rw [if_pos hn, Option.some.injEq, ← hlen]
    by_cases hlt : i < (s.validators.map (·.name)).length
    · rw [List.getElem?_append_left hlt]
      exact ⟨fun e => absurd hlt (by omega), fun e => absurd e (hold i)⟩
    · rw [List.getElem?_append_right (by omega), List.getElem?_singleton, ← hn]
      by_cases he : i = (s.validators.map (·.name)).length
      · simp [he]
      · rw [if_neg (by omega)]
        exact ⟨fun e => absurd e.symm he, fun e => by cases e⟩
  · rw [if_neg hn, s.index_iff]
    by_cases hlt : i < (s.validators.map (·.name)).length
    · rw [List.getElem?_append_left hlt]
    · rw [List.getElem?_append_right (by omega), List.getElem?_eq_none (by omega),
        List.getElem?_singleton]
      split
      · exact ⟨fun e => (by cases e), fun e => absurd (Option.some.inj e) hn⟩
      · exact Iff.rfl

/-- Adds a validator, or replaces the one of its name. -/
def register (s : ValidatorSet) (v : Validator) : ValidatorSet :=
  match h : Assoc.get? v.name s.index with
  | some i =>
    { s with
      validators := s.validators.set i v
      index_iff := fun name j => by rw [s.names_set h, s.index_iff] }
  | none =>
    { validators := s.validators ++ [v]
      index := Assoc.insert v.name s.validators.length s.index
      index_iff := s.index_iff_append h }

def ofList (vs : List Validator) : ValidatorSet := vs.foldl register {}

def get? (s : ValidatorSet) (name : String) : Option Validator := do
  s.validators[← Assoc.get? name s.index]?

def names (s : ValidatorSet) : List String := s.validators.map (·.name)

def size (s : ValidatorSet) : Nat := s.validators.length

def isEmpty (s : ValidatorSet) : Bool := s.validators.isEmpty

end ValidatorSet

end DocAudit
