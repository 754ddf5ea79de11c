/-!
# Floating-point numbers as integers times powers of two

A finite number is `± significand * 2 ^ exponent` with a significand below `2 ^ 53`.
-/

namespace DocAudit.Number

/-- The parts of a floating-point number. -/
inductive Parts where
  | finite (negative : Bool) (significand : Nat) (exponent : Int)
  | infinite (negative : Bool)
  | nan
  deriving DecidableEq, Repr

/-- The parts that sixty-four bits stand for. -/
def partsOfBits (bits : UInt64) : Parts :=
  let n : Nat := bits.toNat
  let negative : Bool := Nat.pow 2 63 ≤ n
  let biased : Nat := n / Nat.pow 2 52 % Nat.pow 2 11
  let fraction : Nat := n % Nat.pow 2 52
  if biased = 2047 then if fraction = 0 then .infinite negative else .nan
  else if biased = 0 then .finite negative fraction (-1074)
  else .finite negative (Nat.pow 2 52 + fraction) ((biased : Int) - 1075)

def parts (x : Float) : Parts := partsOfBits x.toBits

/-- The power `base ^ n` for a nonnegative `n`, and one otherwise. -/
def powPos (base : Nat) (n : Int) : Nat := Nat.pow base n.toNat

end DocAudit.Number
