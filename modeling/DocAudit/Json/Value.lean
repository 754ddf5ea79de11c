/-!
# JSON values

Numbers are kept as they are written, because whether a number has a fraction or an exponent
decides what it can be read as.  A string with half of a surrogate pair denotes no text; such
strings are allowed where nobody looks at them.
-/

namespace DocAudit

/-- A number as it is written. -/
structure Json.Number where
  negative : Bool
  /-- The digits before the decimal point. -/
  integer : List Char
  /-- The digits after the decimal point; empty if there is no point. -/
  fraction : List Char
  /-- The sign and the digits of the exponent. -/
  exponent : Option (Bool × List Char)
  deriving DecidableEq, Repr

/-- A JSON value, members in the order in which they are written. -/
inductive Json where
  | null
  | bool (b : Bool)
  | number (n : Json.Number)
  | str (text : Option String)
  | arr (items : List Json)
  | obj (members : List (Option String × Json))
  deriving Repr

end DocAudit
