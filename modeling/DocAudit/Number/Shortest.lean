import DocAudit.Number.Binary

/-!
# Shortest decimals

`shortest` finds the decimal with the fewest digits among those that round to a given
floating-point number, and of these the one nearest to it.  `display` writes it: positionally as
long as the decimal point is not far away, else with an exponent.
-/

namespace DocAudit.Number

/-- The reals that round to `significand * 2 ^ exponent`, in quarters of the last place. -/
structure Interval where
  low : Nat
  mid : Nat
  high : Nat
  /-- Whether the ends belong to the interval. -/
  closed : Bool
  /-- The power of two that the bounds are multiples of. -/
  exponent : Int

/-- The reals that round to the number with the given parts.  Below a power of two the next
number is nearer. -/
def intervalOf (significand : Nat) (exponent : Int) : Interval :=
  let near := significand = Nat.pow 2 52 && exponent > -1074
  { low := if near then 4 * significand - 1 else 4 * significand - 2
    mid := 4 * significand
    high := 4 * significand + 2
    closed := significand % 2 = 0
    exponent := exponent - 2 }

/-- The multiple of `10 ^ k` in the interval that is nearest to its middle: the factor, if there is
one.  Of two that are equally near the even one is taken. -/
def Interval.multiple? (i : Interval) (k : Int) : Option Nat :=
  let p := powPos 10 k * powPos 2 (-i.exponent)
  let r := powPos 10 (-k) * powPos 2 i.exponent
  let inside (c : Nat) : Bool :=
    if i.closed then i.low * r ≤ c * p && c * p ≤ i.high * r
    else i.low * r < c * p && c * p < i.high * r
  let d := i.mid * r / p
  let below := d ≠ 0 && inside d
  let above := inside (d + 1)
  if below && above then
    let toBelow := i.mid * r - d * p
    let toAbove := (d + 1) * p - i.mid * r
    if toBelow < toAbove || (toBelow = toAbove && d % 2 = 0) then some d else some (d + 1)
  else if below then some d
  else if above then some (d + 1)
  else none

/-- The first of the exponents from `k` downwards, `n` of them, that has a multiple. -/
def Interval.coarsest (i : Interval) : (n : Nat) → (k : Int) → Nat × Int
  | 0, k => (i.mid, k)
  | n + 1, k =>
    match i.multiple? k with
    | some d => (d, k)
    | none => i.coarsest n (k - 1)

/-- Factor and exponent without zeros at the end of the factor. -/
def stripZeros : (fuel : Nat) → Nat → Int → Nat × Int
  | 0, d, k => (d, k)
  | n + 1, d, k => if d ≠ 0 && d % 10 = 0 then stripZeros n (d / 10) (k + 1) else (d, k)

/-- The shortest decimal `d * 10 ^ k` for a positive number with the given parts. -/
def shortest (significand : Nat) (exponent : Int) : Nat × Int :=
  let (d, k) := (intervalOf significand exponent).coarsest 640 310
  stripZeros 20 d k

/-- The text of the decimal `d * 10 ^ k`. -/
def displayDecimal (d : Nat) (k : Int) : String :=
  let ds := (toString d).toList
  let point := (ds.length : Int) + k
  if 0 ≤ k && point ≤ 16 then String.ofList ds ++ "".pushn '0' k.toNat ++ ".0"
  else if 0 < point && point ≤ 16 then
    String.ofList (ds.take point.toNat) ++ "." ++ String.ofList (ds.drop point.toNat)
  else if -5 < point && point ≤ 0 then "0." ++ "".pushn '0' (-point).toNat ++ String.ofList ds
  else
    let fraction := if ds.length = 1 then "" else "." ++ String.ofList (ds.drop 1)
    let sign := if 0 < point then "+" else ""
    String.ofList (ds.take 1) ++ fraction ++ "e" ++ sign ++ toString (point - 1)

/-- The text of a finite number. -/
def display? (x : Float) : Option String :=
  match parts x with
  | .finite negative m e =>
    let sign := if negative then "-" else ""
    if m = 0 then some (sign ++ "0.0")
    else
      let (d, k) := shortest m e
      some (sign ++ displayDecimal d k)
  | _ => none

end DocAudit.Number
