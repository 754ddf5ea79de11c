/-!
# Ranges of code points as bytes

The UTF-8 forms of the characters in a range are not a product of byte ranges, but every range is
a sequence of parts whose forms are.  `byteForms` gives these parts in increasing order, each as the
ranges of its first, second, third and fourth byte.
-/

namespace DocAudit.Pattern

/-- A closed range of numbers. -/
abbrev Range := Nat × Nat

/-- Where to divide a range whose forms are no product, given by the last number of the first
part: around the numbers that are no characters, where the forms grow longer, and where the bytes
before the last `6`, `12` or `18` bits change while those bits do not go through all values. -/
def divisionOf? (r : Range) : Option Nat :=
  let lengths := [0x7F, 0x7FF, 0xFFFF]
  match lengths.find? fun m => r.1 ≤ m && m < r.2 with
  | some m => some m
  | none =>
    if r.2 ≤ 0x7F then none
    else
      [64, 4096, 262144].findSome? fun m =>
        if r.1 / m = r.2 / m then none
        else if r.1 % m ≠ 0 then some (r.1 / m * m + (m - 1))
        else if r.2 % m ≠ m - 1 then some (r.2 / m * m - 1)
        else none

/-- Divides a range into parts whose forms are products.  A range is divided at most as often as
there are places for it. -/
def divide : (fuel : Nat) → Range → List Range
  | 0, r => [r]
  | n + 1, r =>
    if r.2 < r.1 then []
    else if r.1 < 0xE000 && 0xD7FF < r.2 then divide n (r.1, 0xD7FF) ++ divide n (0xE000, r.2)
    else
      match divisionOf? r with
      | some m => divide n (r.1, m) ++ divide n (m + 1, r.2)
      | none => [r]

/-- The bytes of a code point. -/
def codeBytes (n : Nat) : List Nat :=
  if n < 0x80 then [n]
  else if n < 0x800 then [0xC0 + n / 64, 0x80 + n % 64]
  else if n < 0x10000 then [0xE0 + n / 4096, 0x80 + n / 64 % 64, 0x80 + n % 64]
  else [0xF0 + n / 262144, 0x80 + n / 4096 % 64, 0x80 + n / 64 % 64, 0x80 + n % 64]

/-- The forms of the characters in a range. -/
def byteForms (r : Range) : List (List Range) :=
  (divide 32 r).map fun p => (codeBytes p.1).zip (codeBytes p.2)

end DocAudit.Pattern
