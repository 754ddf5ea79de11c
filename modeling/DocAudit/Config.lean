import DocAudit.Assoc
import DocAudit.Severity
import DocAudit.Toml.DateTable
import DocAudit.Toml.Reader
import DocAudit.Visibility

/-!
# Configuration

The configuration says from which severity on a check fails, which coverage is required, and how
each validator is set up.  It is written in TOML; keys that mean nothing here are ignored at the
top and kept as options of the validator within a validator's table.
-/

namespace DocAudit

/-- Settings that apply to every validator. -/
structure GlobalConfig where
  toolOptions : Option (List String) := none
  exclude : List String := []
  deriving DecidableEq, Repr

structure ValidatorConfig where
  enabled : Option Bool := none
  severity : Option Severity := none
  toolOptions : Option (List String) := none
  exclude : List String := []
  /-- The settings that only the validator itself understands. -/
  options : List (String × Toml.Value) := []
  deriving Repr

structure Config where
  /-- The severity from which on a check fails, as it is written. -/
  failOn : String := "warning"
  minCoverage : Option Float := none
  allValidators : GlobalConfig := {}
  /-- The settings by validator, in the order of their names. -/
  validators : List (String × ValidatorConfig) := []
  deriving Repr

/-! ## Decoding -/

/-- A setting that is missing or that `f` decodes. -/
def optionalSetting {α : Type} (f : Toml.Value → Option α) :
    Option Toml.Value → Option (Option α)
  | none => some none
  | some v => (f v).map some

/-- A setting that has a default value. -/
def defaultedSetting {α : Type} (default : α) (f : Toml.Value → Option α) :
    Option Toml.Value → Option α
  | none => some default
  | some v => f v

namespace GlobalConfig

/-- The settings from the values of their two keys. -/
def ofFields? (toolOptions exclude : Option Toml.Value) : Option GlobalConfig := do
  some
    { toolOptions := ← optionalSetting Toml.Value.asStrings? toolOptions
      exclude := ← defaultedSetting [] Toml.Value.asStrings? exclude }

/-- Decodes the settings from a table or from an array that starts with their values in order. -/
def ofValue? : Toml.Value → Option GlobalConfig
  | .array items => ofFields? items[0]? items[1]?
  | v => do
    let entries ← v.asEntries?
    ofFields? (Assoc.get? "tool_options" entries) (Assoc.get? "exclude" entries)

end GlobalConfig

namespace ValidatorConfig

/-- The keys that have a meaning for every validator. -/
def keys : List String := ["enabled", "severity", "tool_options", "exclude"]

def ofValue? (v : Toml.Value) : Option ValidatorConfig := do
  let entries ← v.asEntries?
  some
    { enabled := ← optionalSetting Toml.Value.asBool? (Assoc.get? "enabled" entries)
      severity := ← optionalSetting (fun v => v.asString?.bind Severity.ofText?)
        (Assoc.get? "severity" entries)
      toolOptions := ← optionalSetting Toml.Value.asStrings? (Assoc.get? "tool_options" entries)
      exclude := ← defaultedSetting [] Toml.Value.asStrings? (Assoc.get? "exclude" entries)
      options := ← Toml.Value.restoreEntries? (entries.filter fun e => !keys.contains e.1) }

def option? (c : ValidatorConfig) (key : String) : Option Toml.Value := Assoc.get? key c.options

/-- The texts in the array that an option holds; none if it holds no array. -/
def textsOf (c : ValidatorConfig) (key : String) : List String :=
  match (c.option? key).bind Toml.Value.asArray? with
  | some items => items.filterMap Toml.Value.asString?
  | none => []

end ValidatorConfig

namespace Config

def validatorsOfValue? : Toml.Value → Option (List (String × ValidatorConfig))
  | .table entries => do
    let decoded ← entries.mapM fun e => (ValidatorConfig.ofValue? e.2).map (e.1, ·)
    some (Assoc.ofList decoded)
  | _ => none

/-- Decodes a configuration from the entries of a document. -/
def ofEntries? (entries : List (String × Toml.Value)) : Option Config := do
  some
    { failOn := ← defaultedSetting "warning" Toml.Value.asString?
        (Assoc.get? "fail_on_severity" entries)
      minCoverage := ← optionalSetting Toml.Value.asFloat? (Assoc.get? "min_coverage" entries)
      allValidators := ← defaultedSetting {} GlobalConfig.ofValue?
        (Assoc.get? "all_validators" entries)
      validators := ← defaultedSetting [] validatorsOfValue? (Assoc.get? "validators" entries) }

/-- Reads a configuration, if the text holds one. -/
def ofText? (text : String) : Option Config := (Toml.parse text).bind ofEntries?

/-! ## Questions about validators -/

def validator? (c : Config) (name : String) : Option ValidatorConfig :=
  Assoc.get? name c.validators

/-- Whether a validator is to be run; it is unless it has been switched off. -/
def isEnabled (c : Config) (name : String) : Bool :=
  ((c.validator? name).bind (·.enabled)).getD true

/-- The severity that all offenses of a validator are given. -/
def severity? (c : Config) (name : String) : Option Severity :=
  (c.validator? name).bind (·.severity)

/-- The exclude patterns that apply to a validator: the global ones, then its own. -/
def excludesFor (c : Config) (name : String) : List String :=
  c.allValidators.exclude ++ ((c.validator? name).map (·.exclude)).getD []

def ownToolOptions? (c : Config) (name : String) : Option (List String) :=
  (c.validator? name).bind (·.toolOptions)

/-- The tool options that a validator runs with: its own, else the global ones. -/
def toolOptionsFor (c : Config) (name : String) : List String :=
  ((c.ownToolOptions? name).or c.allValidators.toolOptions).getD []

def option? (c : Config) (name key : String) : Option Toml.Value :=
  (c.validator? name).bind (·.option? key)

/-- The severity from which on a check fails; without one it does not fail. -/
def failOnSeverity? (c : Config) : Option Severity := Severity.ofText? c.failOn

/-- The visibility at which a validator with the given default works. -/
def visibilityFor (c : Config) (name : String) (default : Visibility) : Visibility :=
  Visibility.resolve default (c.ownToolOptions? name) c.allValidators.toolOptions

end Config

end DocAudit
