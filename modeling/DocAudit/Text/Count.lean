/-!
# Counts

Line numbers and lengths are natural numbers below `2 ^ 64`.  Their text is a nonempty run of
ASCII digits, with leading zeros allowed and an optional plus sign in front.
-/

namespace DocAudit.Text

/-- Counts are below this bound. -/
def countLimit : Nat := 18446744073709551616

/-- The value of a digit `0` to `9`. -/
def digitValue? (c : Char) : Option Nat :=
  if '0' ≤ c ∧ c ≤ '9' then some (c.toNat - 48) else none

/-- The number written by the digits `cs` after `acc`; none where another character stands. -/
def readDigits (acc : Nat) : List Char → Option Nat
  | [] => some acc
  | c :: cs =>
    match digitValue? c with
    | some d => readDigits (10 * acc + d) cs
    | none => none

/-- The text of a count without its sign. -/
def unsigned : List Char → List Char
  | '+' :: cs => cs
  | cs => cs

/-- Reads a count. -/
def readCountChars (cs : List Char) : Option Nat :=
  match unsigned cs with
  | [] => none
  | ds => (readDigits 0 ds).filter (· < countLimit)

def readCount (s : String) : Option Nat := readCountChars s.toList

end DocAudit.Text
