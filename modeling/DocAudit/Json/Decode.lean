import DocAudit.Json.Numeric

/-!
# Decoding JSON into records

A record is written as an object, whose unknown keys are ignored and whose known keys appear at
most once, or as an array of its fields in order, of which trailing ones may be missing.  The name
of an alternative without contents is written as a string, or as an object with the name as its
only key and `null` as its value.
-/

namespace DocAudit.Json

def text? : Json → Option String
  | .str t => t
  | _ => none

def count? : Json → Option Nat
  | .number n => n.toCount?
  | _ => none

def float? : Json → Option Float
  | .number n => n.toFloat?
  | _ => none

/-- The value as a list of values that `f` decodes. -/
def list? {α : Type} (f : Json → Option α) : Json → Option (List α)
  | .arr items => items.mapM f
  | _ => none

/-- The value as something that `f` decodes, or as nothing if it is `null`. -/
def nullable? {α : Type} (f : Json → Option α) : Json → Option (Option α)
  | .null => some none
  | v => (f v).map some

/-- The name of an alternative without contents. -/
def variant? : Json → Option String
  | .str t => t
  | .obj [(some key, .null)] => some key
  | _ => none

/-- How a record is written. -/
inductive Form where
  | object
  | array
  deriving DecidableEq, Repr

/-- The values of the given keys in an object.  Every key must be a text, and none of the given
keys may appear twice. -/
def memberValues (keys : List String) (members : List (Option String × Json)) :
    Option (List (Option Json)) := do
  let named ← members.mapM fun m => m.1.map (·, m.2)
  keys.mapM fun key =>
    match named.filter (·.1 = key) with
    | [] => some none
    | [m] => some (some m.2)
    | _ => none

/-- The fields of a record with the given keys, `none` where a field is missing. -/
def fields? (keys : List String) : Json → Option (Form × List (Option Json))
  | .obj members => (memberValues keys members).map (.object, ·)
  | .arr items =>
    if items.length ≤ keys.length then
      some (.array, items.map some ++ List.replicate (keys.length - items.length) none)
    else none
  | _ => none

def required {α : Type} (f : Json → Option α) (field : Option Json) : Option α := field.bind f

def defaulted {α : Type} (default : α) (f : Json → Option α) : Option Json → Option α
  | some v => f v
  | none => some default

/-- A field that counts as `null` where an object lacks it. -/
def nullWhenMissing {α : Type} (form : Form) (f : Json → Option α) :
    Option Json → Option (Option α)
  | some v => nullable? f v
  | none => if form = .object then some none else none

end DocAudit.Json
