/-!
# Association lists in key order

Small maps from texts to values are lists of pairs with strictly increasing keys.
-/

namespace DocAudit.Assoc

variable {α : Type}

def get? (key : String) (entries : List (String × α)) : Option α :=
  (entries.find? (·.1 = key)).map (·.2)

def contains (key : String) (entries : List (String × α)) : Bool := entries.any (·.1 = key)

/-- Stores a value under a key, in place of the one stored there before. -/
def insert (key : String) (value : α) : List (String × α) → List (String × α)
  | [] => [(key, value)]
  | (k, v) :: rest =>
    if key = k then (key, value) :: rest
    else if key < k then (key, value) :: (k, v) :: rest
    else (k, v) :: insert key value rest

/-- The map of a list of pairs; of two pairs with one key the later counts. -/
def ofList (pairs : List (String × α)) : List (String × α) :=
  pairs.foldl (fun m p => insert p.1 p.2 m) []

@[simp] theorem get?_nil (key : String) : get? key ([] : List (String × α)) = none := rfl

theorem get?_cons (key : String) (p : String × α) (m : List (String × α)) :
    get? key (p :: m) = if p.1 = key then some p.2 else get? key m := by
  unfold get?
  rw [List.find?_cons]
  by_cases h : p.1 = key <;> simp [h]

/-- The order of the keys plays no part in a look-up after an insertion. -/
theorem get?_insert (key k : String) (value : α) (m : List (String × α)) :
    get? k (insert key value m) = if key = k then some value else get? k m := by
  induction m with
  | nil => simp [insert, get?_cons]
  | cons p m ih =>
    unfold insert
    split
    · rename_i h
      simp only [get?_cons, ← h]
      split <;> rfl
    · rename_i h
      split
      · rw [get?_cons]
      · rw [get?_cons, ih, get?_cons]
        by_cases hp : p.1 = k
        · simp [hp, show key ≠ k from fun e => h (e.trans hp.symm)]
        · simp [hp]

/-- Under a new key an entry is added, and the others stay. -/
theorem insert_perm {key : String} (value : α) : ∀ {m : List (String × α)},
    get? key m = none → (insert key value m).Perm ((key, value) :: m)
  | [], _ => List.Perm.refl _
  | p :: m, h => by
    rw [get?_cons] at h
    by_cases hp : p.1 = key
    · rw [if_pos hp] at h
      cases h
    · rw [if_neg hp] at h
      have ih := insert_perm value h
      show (if key = p.1 then (key, value) :: m
        else if key < p.1 then (key, value) :: p :: m
        else p :: insert key value m).Perm ((key, value) :: p :: m)
      rw [if_neg (Ne.symm hp)]
      split
      · exact List.Perm.refl _
      · exact (ih.cons p).trans (List.Perm.swap (key, value) p m)

end DocAudit.Assoc
