import DocAudit.Assoc

/-!
# Records

A record is what a parser finds in the output of a validator: a message, a place and further
fields, each of which may be missing.
-/

namespace DocAudit

/-- One finding in the output of a validator. -/
structure Record where
  message : Option String := none
  location : Option String := none
  line : Option Nat := none
  /-- Further fields in the order of their keys. -/
  fields : List (String × String) := []
  deriving DecidableEq, Repr

namespace Record

def field? (r : Record) (key : String) : Option String := Assoc.get? key r.fields

def withField (r : Record) (key value : String) : Record :=
  { r with fields := Assoc.insert key value r.fields }

def lineOrZero (r : Record) : Nat := r.line.getD 0

end Record

end DocAudit
