/-!
# Log entries

Operations that report on their progress return the entries they write, in order.
-/

namespace DocAudit

/-- The importance of a log entry. -/
inductive Level where
  | debug
  | info
  | warn
  deriving DecidableEq, Repr

def Level.name : Level → String
  | .debug => "DEBUG"
  | .info => "INFO"
  | .warn => "WARN"

structure LogEntry where
  level : Level
  text : String
  deriving DecidableEq, Repr

namespace LogEntry

/-- An entry for those who look for details. -/
def debug (text : String) : LogEntry := ⟨.debug, text⟩

/-- An entry on the normal course of a run. -/
def info (text : String) : LogEntry := ⟨.info, text⟩

/-- An entry that deserves attention. -/
def warn (text : String) : LogEntry := ⟨.warn, text⟩

/-- The entry on one line of text. -/
def display (e : LogEntry) : String := s!"{e.level.name} {e.text}"

end LogEntry

/-- A log, the earliest entry first. -/
abbrev Log := List LogEntry

end DocAudit
