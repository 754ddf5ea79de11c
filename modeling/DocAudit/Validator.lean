import DocAudit.Collector
import DocAudit.Command
import DocAudit.Config
import DocAudit.Log
import DocAudit.Offense
import DocAudit.Output.Record
import DocAudit.Registry

/-!
# Validators

A validator produces text, either by running a command or by being asked about each code object,
and parses that text into records.  Its result kind turns records into offenses.
-/

namespace DocAudit

/-- How a validator produces its output. -/
inductive Strategy where
  /-- By a command. -/
  | shell
  /-- By questions about code objects. -/
  | inProcess
  deriving DecidableEq, Repr

/-- Why a validator could not answer. -/
inductive QueryError where
  /-- The validator lacks the operation that its strategy needs. -/
  | unimplemented (validator operation : String)
  /-- The validator asked for something that the object does not have. -/
  | noSuchAccessor (validator accessor object : String)
  /-- Anything else. -/
  | runtime (message : String)
  deriving DecidableEq, Repr

namespace QueryError

def message : QueryError → String
  | unimplemented validator operation =>
    s!"validator `{validator}` does not implement `{operation}`"
  | noSuchAccessor validator accessor object =>
    s!"validator `{validator}` used unknown accessor `{accessor}` on {object}"
  | runtime message => message

/-- Whether the error is a defect of the validator, so that a run cannot go on. -/
def isFatal : QueryError → Bool
  | unimplemented _ _ => true
  | noSuchAccessor _ _ _ => true
  | runtime _ => false

end QueryError

/-- Why a run has been given up. -/
inductive EngineError where
  | query (validator : String) (source : QueryError)
  | missingSeverity (validator : String)
  deriving DecidableEq, Repr

def EngineError.message : EngineError → String
  | .query validator source => s!"validator {validator} is defective: {source.message}"
  | .missingSeverity validator => s!"validator {validator} does not declare a default severity"

/-- What a validator knows when it builds its command. -/
structure CommandContext where
  files : Option (List String) := none
  toolOptions : List String := []
  deriving DecidableEq, Repr

/-- The settings that a validator sees: the configuration, and under which name to look. -/
structure Settings where
  config : Config
  name : String

/-- The value of one of the validator's own options. -/
def Settings.option? (s : Settings) (key : String) : Option Toml.Value :=
  s.config.option? s.name key

/-- What a query about one object leaves: the collector, and the error it has ended with, if
any. -/
structure Reply where
  collector : Collector
  error : Option QueryError := none
  log : Log := []
  deriving DecidableEq, Repr

/-- What there is to say about one object, whatever has been collected: lines to write, and the
error to end with, if any. -/
structure Answer where
  lines : List String := []
  error : Option QueryError := none
  log : Log := []
  deriving DecidableEq, Repr

/-- Writes the lines of an answer behind those that have been collected. -/
def Answer.write (a : Answer) (c : Collector) : Reply :=
  ⟨a.lines.foldl Collector.puts c, a.error, a.log⟩

/-- The last part of a name with slashes. -/
def lastSegment (name : String) : String := (Path.parts name).getLast?.getD name

/-- How records become offenses. -/
structure ResultKind where
  /-- The name under which the configuration is asked for a severity. -/
  validatorName : String
  defaultSeverity : Option Severity := none
  recordSeverity : Record → Option Severity := fun _ => none
  offenseKind : String := "line"
  offenseName : String := lastSegment validatorName
  message : Record → String

structure Validator where
  name : String
  description : String := ""
  defaultVisibility : Visibility := .publicOnly
  strategy : Strategy
  /-- The command of a shell validator. -/
  command : CommandContext → Except QueryError Command :=
    fun _ => .error (.unimplemented name "command")
  /-- Asks an in-process validator about an object.  It is given what has been collected before,
  and may read it and change it at will. -/
  query : CodeObject → Settings → Collector → Reply :=
    fun _ _ c => { collector := c, error := some (.unimplemented name "in_process_query") }
  parse : String → List Record
  kind : ResultKind

end DocAudit
