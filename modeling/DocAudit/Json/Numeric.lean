import DocAudit.Json.Value
import DocAudit.Text.Count

/-!
# Reading numbers as counts and floating-point numbers

A count is written without sign, fraction and exponent.  A floating-point number is read from at
most as many leading digits as fit into sixty-four bits; they are scaled by one power of ten at a
time, each step rounded.
-/

namespace DocAudit.Json

open DocAudit.Text

/-- Whether the number is written without fraction and exponent. -/
def Number.isInteger (n : Number) : Bool := n.fraction.isEmpty && n.exponent.isNone

def Number.toCount? (n : Number) : Option Nat :=
  if n.isInteger && !n.negative then (readDigits 0 n.integer).filter (· < countLimit) else none

/-- Takes leading digits as long as the value stays below the limit: the value, the number of
digits taken and whether some were left. -/
def takeDigits (value taken : Nat) : List Char → Nat × Nat × List Char
  | [] => (value, taken, [])
  | c :: cs =>
    let next := 10 * value + (c.toNat - 48)
    if next < countLimit then takeDigits next (taken + 1) cs else (value, taken, c :: cs)

/-- The largest power of ten that is scaled by at once. -/
def largestPower : Nat := 308

/-- Scales a floating-point number by a power of ten; none if the result is too large. -/
def scale (x : Float) (exponent : Int) : Option Float :=
  if exponent.natAbs ≤ largestPower then
    let power := Float.ofScientific 1 false exponent.natAbs
    if 0 ≤ exponent then
      let y := x * power
      if y.isInf then none else some y
    else some (x / power)
  else if x == 0.0 then some x
  else if _h : 0 ≤ exponent then none
  else scale (x / Float.ofScientific 1 false largestPower) (exponent + largestPower)
termination_by exponent.natAbs
decreasing_by
  simp only [largestPower] at *
  omega

/-- The exponent as a number, cut off where it could not matter any more. -/
def exponentValue (digits : List Char) : Nat :=
  Nat.min ((readDigits 0 digits).getD 0) (Nat.pow 2 31)

/-- The number as a floating-point number; none if it is too large. -/
def Number.toFloat? (n : Number) : Option Float := do
  let (whole, _, long) := takeDigits 0 0 n.integer
  let x ← if n.isInteger && long.isEmpty then some (Float.ofNat whole)
    else
      let (value, places, _) := takeDigits whole 0 n.fraction
      let base : Int := (long.length : Int) - places
      match n.exponent with
      | none => scale (Float.ofNat value) base
      | some (negative, ds) =>
        let e := exponentValue ds
        if e ≥ Nat.pow 2 31 then if value ≠ 0 && !negative then none else some 0.0
        else scale (Float.ofNat value) (if negative then base - e else base + e)
  some (if n.negative then -x else x)

/-- The number that writes a natural number. -/
def Number.ofNat (n : Nat) : Number := ⟨false, (toString n).toList, [], none⟩

end DocAudit.Json
