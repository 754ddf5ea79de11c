import DocAudit.Text.Hexadecimal
import DocAudit.Unicode.CaseFold
import DocAudit.Unicode.Packed

/-!
# Sets of characters

A set of characters is a list of closed ranges of code points in increasing order.  Ranges that
touch are joined by `insert`; ranges on the two sides of the code points that are no characters
stay apart, since no range ends between them.

* `contains` is membership.
* `union`, `inter`, `diff`, `symmDiff` and `compl` are the operations of sets.
* `fold` closes a set under change of case.
-/

namespace DocAudit.Pattern

open DocAudit.Unicode

/-- A set of characters. -/
structure CharSet where
  ranges : List (Nat × Nat)
  deriving DecidableEq, Repr

namespace CharSet

def lastCode : Nat := 0x10FFFF

/-- The code point of the character after the one with the given code point. -/
def codeAfter (n : Nat) : Nat := if n = 0xD7FF then 0xE000 else n + 1

/-- The code point of the character before the one with the given code point. -/
def codeBefore (n : Nat) : Nat := if n = 0xE000 then 0xD7FF else n - 1

def contains (k : CharSet) (c : Char) : Bool := isIn k.ranges c.toNat

/-- Ranges with a further one, which takes in all that it touches. -/
def insert (r : Nat × Nat) : List (Nat × Nat) → List (Nat × Nat)
  | [] => [r]
  | s :: rs =>
    if r.2 + 1 < s.1 then r :: s :: rs
    else if s.2 + 1 < r.1 then s :: insert r rs
    else insert (min r.1 s.1, max r.2 s.2) rs

def none : CharSet := ⟨[]⟩

def all : CharSet := ⟨[(0, lastCode)]⟩

def single (c : Char) : CharSet := ⟨[(c.toNat, c.toNat)]⟩

def ofRanges (rs : List (Nat × Nat)) : CharSet := ⟨rs.foldl (fun acc r => insert r acc) []⟩

def ofChars (cs : List Char) : CharSet := ofRanges (cs.map fun c => (c.toNat, c.toNat))

def union (a b : CharSet) : CharSet :=
  match a.ranges with
  | [] => b
  | rs => ⟨b.ranges.foldl (fun acc r => insert r acc) rs⟩

/-- The parts of the range `r` inside of some of the ranges. -/
def clip (r : Nat × Nat) : List (Nat × Nat) → List (Nat × Nat)
  | [] => []
  | s :: rs =>
    if s.2 < r.1 then clip r rs
    else if r.2 < s.1 then []
    else (max r.1 s.1, min r.2 s.2) :: clip r rs

def inter (a b : CharSet) : CharSet := ⟨a.ranges.flatMap fun r => clip r b.ranges⟩

/-- The parts of the range `r` outside of all of the ranges. -/
def cutOut (r : Nat × Nat) : List (Nat × Nat) → List (Nat × Nat)
  | [] => [r]
  | s :: rs =>
    if s.2 < r.1 then cutOut r rs
    else if r.2 < s.1 then [r]
    else
      (if r.1 < s.1 then [(r.1, codeBefore s.1)] else []) ++
        if s.2 < r.2 then cutOut (codeAfter s.2, r.2) rs else []

def diff (a b : CharSet) : CharSet := ⟨a.ranges.flatMap fun r => cutOut r b.ranges⟩

/-- The characters in exactly one of the two sets. -/
def symmDiff (a b : CharSet) : CharSet := (a.union b).diff (a.inter b)

/-- The range between two ends in either order. -/
def rangeBetween (m n : Nat) : Nat × Nat := (min m n, max m n)

/-- The ranges between `last` and the given ranges and after them.  Of two ranges with no
character between them the neighbouring ends count. -/
def gapsAfter (last : Nat) : List (Nat × Nat) → List (Nat × Nat)
  | [] => if last < lastCode then [(codeAfter last, lastCode)] else []
  | r :: rs => rangeBetween (codeAfter last) (codeBefore r.1) :: gapsAfter r.2 rs

/-- The characters that are not in the set. -/
def compl (k : CharSet) : CharSet :=
  match k.ranges with
  | [] => all
  | r :: rs => ⟨(if 0 < r.1 then [(0, codeBefore r.1)] else []) ++ gapsAfter r.2 rs⟩

/-- The complement if `negated` holds, else the set itself. -/
def complIf (negated : Bool) (k : CharSet) : CharSet := if negated then k.compl else k

/-- The set with all characters of the classes that it has a character of. -/
def closeUnder (classes : List (List Char)) (k : CharSet) : CharSet :=
  classes.foldl (fun acc cs => if cs.any k.contains then acc.union (ofChars cs) else acc) k

/-- The characters equal up to case to one of the set. -/
def fold (k : CharSet) : CharSet := k.closeUnder foldClasses

/-- The small and capital letters of ASCII. -/
def asciiLetters : List (List Char) :=
  (List.range 26).map fun i => [Char.ofNat (65 + i), Char.ofNat (97 + i)]

/-- The characters equal to one of the set up to the case of ASCII letters. -/
def foldAscii (k : CharSet) : CharSet := k.closeUnder asciiLetters

def isAscii (k : CharSet) : Bool := k.ranges.getLast?.all fun r => r.2 < 0x80

def only? (k : CharSet) : Option Char :=
  match k.ranges with
  | [(m, n)] => if m = n then Text.charOfCode? m else Option.none
  | _ => Option.none

end CharSet

end DocAudit.Pattern
