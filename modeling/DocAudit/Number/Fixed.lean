import DocAudit.Number.Binary

/-!
# Fixed decimal places

The decimal with a given number of places nearest to a floating-point number; a value halfway
between two decimals goes to the one with an even last digit.
-/

namespace DocAudit.Number

/-- The integer nearest to `num / den`, the even one of two that are equally near. -/
def roundDiv (num den : Nat) : Nat :=
  let q := num / den
  let r := num % den
  if 2 * r < den then q else if den < 2 * r then q + 1 else q + q % 2

/-- Decimal digits with `places` of them behind the point. -/
def placed (places n : Nat) : String :=
  let ds := toString n
  let ds := "".pushn '0' (places + 1 - ds.length) ++ ds
  let cs := ds.toList
  String.ofList (cs.take (cs.length - places)) ++
    (if places = 0 then "" else "." ++ String.ofList (cs.drop (cs.length - places)))

/-- The number with a fixed number of decimal places. -/
def fixed (places : Nat) (x : Float) : String :=
  match parts x with
  | .nan => "NaN"
  | .infinite negative => if negative then "-inf" else "inf"
  | .finite negative m e =>
    let n := roundDiv (m * Nat.pow 10 places * powPos 2 e) (powPos 2 (-e))
    (if negative then "-" else "") ++ placed places n

end DocAudit.Number
