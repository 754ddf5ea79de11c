import DocAudit.Text.Blank

/-!
# Severities

How serious an offense is.  Severities are ordered by strictness: a convention is less serious
than a warning, a warning less than an error.  Their names are read without regard to case and
to white space around them.
-/

namespace DocAudit

/-- How serious an offense is. -/
inductive Severity where
  | convention
  | warning
  | error
  deriving DecidableEq, Repr

namespace Severity

/-- All severities, the strictest first. -/
def all : List Severity := [error, warning, convention]

/-- The strictness of a severity as a number. -/
def rank : Severity → Nat
  | convention => 0
  | warning => 1
  | error => 2

/-- Severities are compared by strictness. -/
instance : LE Severity := ⟨fun a b => a.rank ≤ b.rank⟩

instance (a b : Severity) : Decidable (a ≤ b) := inferInstanceAs (Decidable (a.rank ≤ b.rank))

def name : Severity → String
  | error => "error"
  | warning => "warning"
  | convention => "convention"

/-- A text in lower case, as far as ASCII letters are concerned. -/
def asciiLower (s : String) : String := String.ofList (s.toList.map Char.toLower)

/-- The severity that a text names. -/
def ofText? (s : String) : Option Severity :=
  match asciiLower (Text.trim s) with
  | "error" => some error
  | "warning" => some warning
  | "convention" => some convention
  | _ => none

/-- The complaint about a text that names no severity. -/
def unknownMessage (s : String) : String :=
  s!"unknown severity `{s}` (expected error, warning or convention)"

end Severity

end DocAudit
