/-!
# TOML values

Dates and times keep exactly what was written of them, up to nanoseconds; `DateTime.display` is
their text.
-/

namespace DocAudit.Toml

structure Date where
  year : Nat
  month : Nat
  day : Nat
  deriving DecidableEq, Repr

structure Time where
  hour : Nat
  minute : Nat
  second : Nat
  nanosecond : Nat
  deriving DecidableEq, Repr

/-- The distance of a local time from universal time. -/
inductive Offset where
  | utc
  | minutes (n : Int)
  deriving DecidableEq, Repr

/-- A date, a time, or both, perhaps with an offset. -/
structure DateTime where
  date : Option Date := none
  time : Option Time := none
  offset : Option Offset := none
  deriving DecidableEq, Repr

/-- A number with zeros in front up to the given width. -/
def padded (width n : Nat) : String :=
  let s := toString n
  "".pushn '0' (width - s.length) ++ s

def Date.display (d : Date) : String :=
  s!"{padded 4 d.year}-{padded 2 d.month}-{padded 2 d.day}"

/-- The text of a fraction of a second, without zeros at its end. -/
def displayFraction (nanosecond : Nat) : String :=
  if nanosecond = 0 then ""
  else
    let digits := (padded 9 nanosecond).toList.reverse.dropWhile (· = '0')
    String.ofList ('.' :: digits.reverse)

def Time.display (t : Time) : String :=
  s!"{padded 2 t.hour}:{padded 2 t.minute}:{padded 2 t.second}" ++ displayFraction t.nanosecond

def Offset.display : Offset → String
  | .utc => "Z"
  | .minutes n =>
    let sign := if n < 0 then "-" else "+"
    s!"{sign}{padded 2 (n.natAbs / 60)}:{padded 2 (n.natAbs % 60)}"

def DateTime.display (d : DateTime) : String :=
  let date := (d.date.map Date.display).getD ""
  let mark := if d.date.isSome && d.time.isSome then "T" else ""
  let time := (d.time.map Time.display).getD ""
  let offset := (d.offset.map Offset.display).getD ""
  date ++ mark ++ time ++ offset

inductive Value where
  | string (s : String)
  | integer (n : Int)
  | float (x : Float)
  | boolean (b : Bool)
  | datetime (d : DateTime)
  | array (items : List Value)
  | table (entries : List (String × Value))
  deriving Repr

namespace Value

def asString? : Value → Option String
  | string s => some s
  | _ => none

def asBool? : Value → Option Bool
  | boolean b => some b
  | _ => none

def asInt? : Value → Option Int
  | integer n => some n
  | _ => none

/-- The value as an integer from `lo` to `hi`. -/
def asIntIn? (lo hi : Int) (v : Value) : Option Int := v.asInt?.filter fun n => lo ≤ n && n ≤ hi

/-- The value as a floating-point number; integers are rounded to the nearest one. -/
def asFloat? : Value → Option Float
  | float x => some x
  | integer n => some (Float.ofInt n)
  | _ => none

def asArray? : Value → Option (List Value)
  | array items => some items
  | _ => none

def asStrings? (v : Value) : Option (List String) := v.asArray?.bind (·.mapM asString?)

/-- The value as written text: a text itself, or a date or time in its written form. -/
def asText? : Value → Option String
  | string s => some s
  | datetime d => some d.display
  | _ => none

/-- The value as a list of written texts. -/
def asTexts? (v : Value) : Option (List String) := v.asArray?.bind (·.mapM asText?)

end Value

end DocAudit.Toml
