import Mathlib.Logic.Function.Basic
import DocAudit.Json.Decode

/-!
# What decoding sees of an object

A record is decoded from the values of its keys.  Each of them is looked up by itself
(`memberValues_eq`), in an object whose keys are texts.  So the order of the members plays no part
(`memberValues_perm`), nor do members with other keys (`memberValues_extend`).  A decoder for which
a missing member says what its default says gives the same for every spelling of an object
(`DecodesBy.eq_of_respelled`).
-/

namespace DocAudit.Json

/-! ## Lists -/

theorem list?_map {α : Type} {f : Json → Option α} {g : α → Json} {xs : List α}
    (h : ∀ x ∈ xs, f (g x) = some x) : list? f (.arr (xs.map g)) = some xs := by
  simp only [list?]
  induction xs with
  | nil => rfl
  | cons x xs ih =>
    rw [List.map_cons, List.mapM_cons, h x List.mem_cons_self,
      ih fun y hy => h y (List.mem_cons_of_mem x hy)]
    rfl

theorem list?_congr {α : Type} {f : Json → Option α} {v w : Json} (h : f v = f w)
    (before after : List Json) :
    list? f (.arr (before ++ v :: after)) = list? f (.arr (before ++ w :: after)) := by
  simp only [list?, List.mapM_append, List.mapM_cons, h]

/-! ## Members with their names -/

/-- The members of an object whose keys are all texts. -/
def named? (members : List (Option String × Json)) : Option (List (String × Json)) :=
  members.mapM fun m => m.1.map (·, m.2)

/-- The value of a key that appears at most once; there is none if it is missing. -/
def value? (named : List (String × Json)) (key : String) : Option (Option Json) :=
  match named.filter (·.1 = key) with
  | [] => some none
  | [m] => some (some m.2)
  | _ => none

variable {keys : List String} {members members' : List (Option String × Json)}

theorem fields?_obj (keys : List String) (members : List (Option String × Json)) :
    fields? keys (.obj members) = (memberValues keys members).map (.object, ·) := rfl

theorem memberValues_eq (keys : List String) (members : List (Option String × Json)) :
    memberValues keys members = (named? members).bind fun named => keys.mapM (value? named) := rfl

theorem named?_cons (k : Option String) (v : Json) (members : List (Option String × Json)) :
    named? ((k, v) :: members) =
      k.bind fun key => (named? members).map fun named => (key, v) :: named := by
  unfold named?
  rw [List.mapM_cons]
  cases k <;> cases members.mapM fun m : Option String × Json => m.1.map (·, m.2) <;> rfl

theorem exists_named?_perm (h : members.Perm members') {named : List (String × Json)}
    (hnamed : named? members = some named) :
    ∃ named', named? members' = some named' ∧ named.Perm named' := by
  induction h generalizing named with
  | nil => exact ⟨named, hnamed, .refl named⟩
  | cons m _ ih =>
    obtain ⟨k, v⟩ := m
    simp only [named?_cons, Option.bind_eq_some_iff, Option.map_eq_some_iff] at hnamed ⊢
    obtain ⟨key, rfl, rest, hrest, rfl⟩ := hnamed
    obtain ⟨rest', hrest', hperm⟩ := ih hrest
    exact ⟨(key, v) :: rest', ⟨key, rfl, rest', hrest', rfl⟩, hperm.cons _⟩
  | swap m n ms =>
    obtain ⟨k, v⟩ := m
    obtain ⟨l, w⟩ := n
    simp only [named?_cons, Option.bind_eq_some_iff, Option.map_eq_some_iff] at hnamed ⊢
    obtain ⟨key', rfl, _, ⟨key, rfl, rest, hrest, rfl⟩, rfl⟩ := hnamed
    exact ⟨(key, v) :: (key', w) :: rest,
      ⟨key, rfl, _, ⟨key', rfl, rest, hrest, rfl⟩, rfl⟩, .swap _ _ _⟩
  | trans _ _ ih₁ ih₂ =>
    obtain ⟨middle, hmiddle, hperm₁⟩ := ih₁ hnamed
    obtain ⟨last, hlast, hperm₂⟩ := ih₂ hmiddle
    exact ⟨last, hlast, hperm₁.trans hperm₂⟩

theorem absent_of_named? {key : String} (h : ∀ m ∈ members, m.1 ≠ some key)
    {named : List (String × Json)} (hnamed : named? members = some named) :
    ∀ m ∈ named, m.1 ≠ key := by
  induction members generalizing named with
  | nil =>
    cases hnamed
    simp
  | cons m members ih =>
    obtain ⟨k, v⟩ := m
    simp only [named?_cons, Option.bind_eq_some_iff, Option.map_eq_some_iff] at hnamed
    obtain ⟨key', rfl, rest, hrest, rfl⟩ := hnamed
    intro n hn
    rcases List.mem_cons.1 hn with rfl | hn
    · rintro rfl
      exact h _ List.mem_cons_self rfl
    · exact ih (fun n hn => h n (List.mem_cons_of_mem _ hn)) hrest n hn

/-! ## Values of keys -/

theorem value?_perm {named named' : List (String × Json)} (h : named.Perm named') (key : String) :
    value? named key = value? named' key := by
  have hfilter := h.filter (·.1 = key)
  unfold value?
  generalize named.filter (·.1 = key) = xs at hfilter
  generalize named'.filter (·.1 = key) = ys at hfilter
  match xs, ys, hfilter with
  | [], ys, hp => rw [List.nil_perm.1 hp]
  | [m], ys, hp => rw [List.singleton_perm.1 hp]
  | _ :: _ :: _, [], hp => exact absurd hp.length_eq (by simp)
  | _ :: _ :: _, [_], hp => exact absurd hp.length_eq (by simp)
  | _ :: _ :: _, _ :: _ :: _, _ => rfl

theorem value?_cons_of_ne {key key' : String} (h : key' ≠ key) (v : Json)
    (named : List (String × Json)) : value? ((key', v) :: named) key = value? named key := by
  unfold value?
  rw [List.filter_cons_of_neg (by simpa using h)]

theorem value?_of_absent {key : String} {named : List (String × Json)}
    (h : ∀ m ∈ named, m.1 ≠ key) : value? named key = some none := by
  have hnone : named.filter (·.1 = key) = [] := by simpa using h
  unfold value?
  rw [hnone]

theorem value?_cons_self (key : String) (v : Json) (named : List (String × Json)) :
    value? ((key, v) :: named) key =
      if named.any (·.1 = key) then none else some (some v) := by
  unfold value?
  rw [List.filter_cons_of_pos (by simp)]
  cases hfilter : named.filter (·.1 = key) with
  | nil =>
    have hnone : ¬named.any (·.1 = key) = true := by
      rw [List.any_eq_true]
      rintro ⟨m, hm, hkey⟩
      exact List.filter_eq_nil_iff.1 hfilter m hm hkey
    rw [if_neg hnone]
  | cons m ms =>
    have hm : m ∈ named.filter (·.1 = key) := hfilter ▸ List.mem_cons_self
    rw [List.mem_filter] at hm
    rw [if_pos (List.any_eq_true.2 ⟨m, hm⟩)]

theorem value?_cons (key : String) (v : Json) (named : List (String × Json)) :
    value? ((key, v) :: named) = Function.update (value? named) key
      (if named.any (·.1 = key) then none else some (some v)) := by
  funext key'
  by_cases hkey : key' = key
  · subst hkey
    rw [value?_cons_self, Function.update_self]
  · rw [value?_cons_of_ne (Ne.symm hkey), Function.update_of_ne hkey]

/-- **The order of the members plays no part.** -/
theorem memberValues_perm (h : members.Perm members') :
    memberValues keys members = memberValues keys members' := by
  rw [memberValues_eq, memberValues_eq]
  cases hn : named? members with
  | some named =>
    obtain ⟨named', hn', hperm⟩ := exists_named?_perm h hn
    have hsame : value? named = value? named' := funext (value?_perm hperm)
    rw [hn', Option.bind_some, Option.bind_some, hsame]
  | none =>
    cases hn' : named? members' with
    | none => rfl
    | some named' =>
      obtain ⟨named, hsome, _⟩ := exists_named?_perm h.symm hn'
      rw [hn] at hsome
      cases hsome

/-- **Members with other keys play no part.** -/
theorem memberValues_extend {key : String} (h : key ∉ keys) (v : Json) :
    memberValues keys ((some key, v) :: members) = memberValues keys members := by
  have hsame : ∀ named : List (String × Json),
      keys.mapM (value? ((key, v) :: named)) = keys.mapM (value? named) := by
    intro named
    induction keys with
    | nil => rfl
    | cons k keys ih =>
      rw [List.mem_cons, not_or] at h
      rw [List.mapM_cons, List.mapM_cons, value?_cons_of_ne h.1, ih h.2]
  rw [memberValues_eq, memberValues_eq, named?_cons]
  cases named? members with
  | none => rfl
  | some named => exact hsame named

/-! ## Spellings -/

/-- The members of a record with the given keys are written in another way: in another order, or
without a member that says what is meant anyway, or with a member that nobody asks for. -/
inductive Respelled (keys : List String) (defaults : List (String × Json)) :
    List (Option String × Json) → List (Option String × Json) → Prop
  | permute {members members' : List (Option String × Json)} :
      members.Perm members' → Respelled keys defaults members members'
  | leaveOut {key : String} {v : Json} {members : List (Option String × Json)} :
      (key, v) ∈ defaults → (∀ m ∈ members, m.1 ≠ some key) →
      Respelled keys defaults ((some key, v) :: members) members
  | extend {key : String} (v : Json) {members : List (Option String × Json)} :
      key ∉ keys → Respelled keys defaults members ((some key, v) :: members)

/-- None of the keys appears twice. -/
def Unambiguous (keys : List String) (named : List (String × Json)) : Prop :=
  ∀ key ∈ keys, (value? named key).isSome

instance (keys : List String) (named : List (String × Json)) : Decidable (Unambiguous keys named) :=
  inferInstanceAs (Decidable (∀ key ∈ keys, (value? named key).isSome))

/-- The value of a key, if there is one. -/
def lookup (named : List (String × Json)) (key : String) : Option Json := (value? named key).join

theorem mapM_value? (keys : List String) (named : List (String × Json)) :
    keys.mapM (value? named) =
      if Unambiguous keys named then some (keys.map (lookup named)) else none := by
  induction keys with
  | nil => rfl
  | cons key keys ih =>
    have hcons : Unambiguous (key :: keys) named ↔
        (value? named key).isSome ∧ Unambiguous keys named := List.forall_mem_cons
    rw [List.mapM_cons, ih, List.map_cons, lookup]
    cases hkey : value? named key with
    | none =>
      have htwice : ¬Unambiguous (key :: keys) named := by simp [hcons, hkey]
      rw [if_neg htwice]
      rfl
    | some x =>
      by_cases hkeys : Unambiguous keys named
      · rw [if_pos hkeys, if_pos (hcons.2 ⟨by rw [hkey]; rfl, hkeys⟩)]
        rfl
      · rw [if_neg hkeys, if_neg fun h => hkeys (hcons.1 h).2]
        rfl

theorem unambiguous_cons {key : String} {v : Json} {named : List (String × Json)}
    (h : named.any (·.1 = key) = false) :
    Unambiguous keys ((key, v) :: named) ↔ Unambiguous keys named := by
  have hmissing : value? named key = some none := value?_of_absent (by simpa using h)
  refine forall₂_congr fun key' _ => ?_
  rw [value?_cons, h]
  by_cases hkey : key' = key
  · subst hkey
    simp [hmissing]
  · rw [Function.update_of_ne hkey]

theorem lookup_cons {key : String} {v : Json} {named : List (String × Json)}
    (h : named.any (·.1 = key) = false) :
    lookup ((key, v) :: named) = Function.update (lookup named) key (some v) := by
  funext key'
  unfold lookup
  rw [value?_cons, h]
  by_cases hkey : key' = key
  · subst hkey
    simp
  · rw [Function.update_of_ne hkey, Function.update_of_ne hkey]

section Decoders

variable {α : Type} {f : Json → Option α} {g : (String → Option Json) → Option α}
  {defaults : List (String × Json)}

/-- The decoder `f` asks an object for the values of the keys only, and makes of them what `g`
makes. -/
structure DecodesBy (keys : List String) (f : Json → Option α)
    (g : (String → Option Json) → Option α) : Prop where
  values : ∀ {ms ms'}, memberValues keys ms = memberValues keys ms' → f (.obj ms) = f (.obj ms')
  lookups : ∀ ms, f (.obj ms) =
    (named? ms).bind fun named => if Unambiguous keys named then g (lookup named) else none

/-- A value may be replaced by one of which the decoder makes the same. -/
theorem DecodesBy.replace (h : DecodesBy keys f g) {key : String} {v w : Json}
    (hkey : key ∈ keys)
    (hsame : ∀ get, g (Function.update get key (some v)) = g (Function.update get key (some w)))
    (members : List (Option String × Json)) :
    f (.obj ((some key, v) :: members)) = f (.obj ((some key, w) :: members)) := by
  rw [h.lookups, h.lookups, named?_cons, named?_cons]
  cases named? members with
  | none => rfl
  | some named =>
    simp only [Option.bind_some, Option.map_some]
    cases hany : named.any (·.1 = key) with
    | true =>
      -- the key is there already, whatever its new value
      have htwice : ∀ u : Json, ¬Unambiguous keys ((key, u) :: named) := by
        intro u hu
        have hsome := hu key hkey
        rw [value?_cons_self, hany] at hsome
        cases hsome
      rw [if_neg (htwice v), if_neg (htwice w)]
    | false =>
      simp only [unambiguous_cons hany, lookup_cons hany]
      split
      · exact hsame (lookup named)
      · rfl

/-- **A decoder for which the defaults say what a missing member says gives the same for every
spelling.** -/
theorem DecodesBy.eq_of_respelled (h : DecodesBy keys f g)
    (hmembers : Respelled keys defaults members members')
    (hdefaults : ∀ {key v get}, (key, v) ∈ defaults → get key = none →
      g (Function.update get key (some v)) = g get) :
    f (.obj members) = f (.obj members') := by
  cases hmembers with
  | permute hperm => exact h.values (memberValues_perm hperm)
  | extend v hkey => exact h.values (memberValues_extend hkey v).symm
  | @leaveOut key v _ hmem habsent =>
    rw [h.lookups, h.lookups, named?_cons]
    cases hnamed : named? members' with
    | none => rfl
    | some named =>
      have hmissing := absent_of_named? habsent hnamed
      have hany : named.any (·.1 = key) = false := by simpa using hmissing
      have hnone : lookup named key = none := by
        rw [lookup, value?_of_absent hmissing]
        rfl
      simp only [Option.bind_some, Option.map_some, unambiguous_cons hany, lookup_cons hany,
        hdefaults hmem hnone]

end Decoders

end DocAudit.Json
