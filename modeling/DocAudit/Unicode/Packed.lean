/-!
# Packed sets of code points

Sets of code points are kept as texts.  A set is a sequence of closed ranges in increasing order,
and of each range two numbers are written: how many code points lie between the range before and
it, and how many come after its first.  Numbers have 26 digits; the last digit of a number is a
small letter, the ones before it are capitals.

* `unpack` gives the ranges of a packed set.
* `isIn` asks whether a code point lies in one of the ranges.
* `lookup?` finds a set in a table by one of its names.
-/

namespace DocAudit.Unicode

/-- The numbers of a text; `n` is the value of the digits before it that belong to its first. -/
def packedNumbers (n : Nat) : List Char → List Nat
  | [] => []
  | c :: cs =>
    if c.toNat < 97 then packedNumbers (26 * n + (c.toNat - 65)) cs
    else (26 * n + (c.toNat - 97)) :: packedNumbers 0 cs

/-- The ranges that pairs of numbers stand for, if `next` is the code point after the range
before. -/
def packedRanges (next : Nat) : List Nat → List (Nat × Nat)
  | gap :: more :: ns => (next + gap, next + gap + more) :: packedRanges (next + gap + more + 1) ns
  | _ => []

/-- The ranges of a packed set. -/
def unpack (lines : List String) : List (Nat × Nat) :=
  packedRanges 0 (packedNumbers 0 (lines.flatMap String.toList))

/-- Whether a number lies in one of the ranges, which are in increasing order. -/
def isIn : List (Nat × Nat) → Nat → Bool
  | [], _ => false
  | r :: rs, n => if n < r.1 then false else if n ≤ r.2 then true else isIn rs n

/-- The set with the given name in a table; several names of a set are divided by blanks. -/
def lookup? (table : List (String × List String)) (name : String) : Option (List (Nat × Nat)) :=
  (table.find? fun entry => (entry.1.splitOn " ").contains name).map fun entry => unpack entry.2

end DocAudit.Unicode
