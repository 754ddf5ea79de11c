import DocAudit.Severity

/-!
# Offenses and their statistics

An offense is one place in the checked sources that breaks a rule.  `Statistics` counts offenses
by severity.
-/

namespace DocAudit

/-- One place in the sources that breaks a rule. -/
structure Offense where
  severity : Severity
  /-- What the offense is about, usually a line. -/
  kind : String
  name : String
  message : String
  /-- The file, empty if unknown. -/
  location : String
  /-- The line in the file, zero if unknown. -/
  line : Nat
  deriving DecidableEq, Repr

def Offense.display (o : Offense) : String :=
  s!"{o.location}:{o.line}: {o.severity.name} [{o.name}] {o.message}"

/-- Numbers of offenses by severity. -/
structure Statistics where
  error : Nat := 0
  warning : Nat := 0
  convention : Nat := 0
  deriving DecidableEq, Repr

namespace Statistics

/-- The statistics with one more offense of the given severity. -/
def record (s : Statistics) : Severity → Statistics
  | .error => { s with error := s.error + 1 }
  | .warning => { s with warning := s.warning + 1 }
  | .convention => { s with convention := s.convention + 1 }

def ofOffenses (os : List Offense) : Statistics := os.foldl (fun s o => s.record o.severity) {}

def get (s : Statistics) : Severity → Nat
  | .error => s.error
  | .warning => s.warning
  | .convention => s.convention

def total (s : Statistics) : Nat := s.error + s.warning + s.convention

end Statistics

end DocAudit
