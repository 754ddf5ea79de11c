import DocAudit.Path
import Mathlib.Data.List.Lex
import Mathlib.Data.Prod.Lex
import Mathlib.Data.String.Basic
import Mathlib.Order.Compare

/-!
# The order of paths

Components are linearly ordered by their kind, and names among each other by their characters.
Lists of components are ordered by the first difference.  Comparing two paths says how their
components stand to each other in this linear order (`compare_compares`), and two paths that it
finds equal are the same path, perhaps in another spelling (`compare_eq_eq_iff`).
-/

namespace DocAudit.Path

/-- Paths with the same components are the same path, however they are written. -/
def SamePath (p q : String) : Prop := components p = components q

namespace Component

/-- The name of a component that has one. -/
def name : Component → String
  | normal name => name
  | _ => ""

/-- What decides about the place of a component: its kind, then its name. -/
def key (c : Component) : ℕ ×ₗ String := toLex (c.rank, c.name)

theorem key_injective : Function.Injective key := by
  intro a b h
  have hboth : (a.rank, a.name) = (b.rank, b.name) := toLex.injective h
  obtain ⟨hrank, hname⟩ := Prod.mk.inj hboth
  cases a <;> cases b <;> simp_all [rank, name]

instance : LinearOrder Component := LinearOrder.lift' key key_injective

theorem lt_iff {a b : Component} : a < b ↔ a.rank < b.rank ∨ a.rank = b.rank ∧ a.name < b.name :=
  Prod.Lex.toLex_lt_toLex

theorem normal_lt_normal {m n : String} : normal m < normal n ↔ m < n := by
  rw [lt_iff]
  constructor
  · rintro (hrank | ⟨_, hname⟩)
    · exact absurd hrank (Nat.lt_irrefl _)
    · exact hname
  · intro h
    exact .inr ⟨rfl, h⟩

theorem compare_of_rank_ne {a b : Component} (h : a.rank ≠ b.rank) :
    a.compare b = Ord.compare a.rank b.rank := by
  unfold compare
  split
  · exact absurd rfl h
  · rfl

theorem compare_normal_compares (m n : String) :
    ((normal m).compare (normal n)).Compares (normal m) (normal n) := by
  rw [compare]
  rcases lt_trichotomy m n with hlt | heq | hgt
  · rw [if_neg hlt.ne, if_pos hlt]
    exact normal_lt_normal.2 hlt
  · rw [if_pos heq]
    exact congrArg normal heq
  · rw [if_neg hgt.ne', if_neg hgt.not_gt]
    exact normal_lt_normal.2 hgt

theorem compare_compares (a b : Component) : (a.compare b).Compares a b := by
  rcases lt_trichotomy a.rank b.rank with hlt | heq | hgt
  · rw [compare_of_rank_ne hlt.ne, Nat.compare_eq_lt.2 hlt]
    exact lt_iff.2 (.inl hlt)
  · -- two components of one kind are the same unless they have names
    cases a with
    | normal m =>
      cases b with
      | normal n => exact compare_normal_compares m n
      | _ => cases heq
    | _ =>
      cases b with
      | normal n => cases heq
      | _ => cases heq <;> rfl
  · rw [compare_of_rank_ne hgt.ne', Nat.compare_eq_gt.2 hgt]
    exact lt_iff.2 (.inl hgt)

end Component

theorem compareComponents_compares : ∀ as bs : List Component,
    (compareComponents as bs).Compares as bs
  | [], [] => rfl
  | [], _ :: _ => List.nil_lt_cons _ _
  | _ :: _, [] => List.nil_lt_cons _ _
  | a :: as, b :: bs => by
    have hhead := Component.compare_compares a b
    have htail := compareComponents_compares as bs
    rw [compareComponents]
    cases hab : a.compare b with
    | lt =>
      rw [hab] at hhead
      exact List.Lex.rel hhead
    | gt =>
      rw [hab] at hhead
      exact List.Lex.rel hhead
    | eq =>
      rw [hab] at hhead
      obtain rfl : a = b := hhead
      -- behind the same component the rest decides, whichever way it goes
      cases hrest : compareComponents as bs with
      | lt =>
        rw [hrest] at htail
        exact List.Lex.cons htail
      | eq =>
        rw [hrest] at htail
        exact congrArg (a :: ·) htail
      | gt =>
        rw [hrest] at htail
        exact List.Lex.cons htail

/-- **Paths are compared by their components in lexicographic order.** -/
theorem compare_compares (p q : String) :
    (compare p q).Compares (components p) (components q) :=
  compareComponents_compares (components p) (components q)

theorem compare_eq_eq_iff {p q : String} : compare p q = .eq ↔ SamePath p q :=
  (compare_compares p q).eq_eq

end DocAudit.Path
