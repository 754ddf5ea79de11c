import DocAudit.Builtin.Preset
import DocAudit.Cli.ConfigSource
import DocAudit.Log
import DocAudit.Text.Quoted

/-!
# Texts of the program

The configuration file for a new project, the list of validators, the texts about the program
itself, and how log entries are shown.
-/

namespace DocAudit.Cli

def programName : String := "doc-lint"

def versionText : String := programName ++ " 0.3.0\n"

def textOfLines (lines : List String) : String := String.join (lines.map (· ++ "\n"))

/-- The content of the configuration file for a new project. -/
def starterConfig : String := textOfLines [
  "# doc-lint configuration",
  "",
  "# Lowest severity that fails the run: \"error\", \"warning\" or \"convention\"",
  "fail_on_severity = \"warning\"",
  "",
  "# Fail when documentation coverage drops below this percentage",
  "# min_coverage = 90.0",
  "",
  "[all_validators]",
  "# Options passed to yard; \"--private\" or \"--protected\" also make",
  "# in-process validators inspect non-public objects",
  "tool_options = []",
  "",
  "# Glob patterns to exclude from analysis",
  "exclude = [",
  "    \"vendor/**\",",
  "    \"spec/**\",",
  "]",
  "",
  "# Validator configurations",
  "# Each validator can be enabled/disabled and have its severity overridden",
  "",
  "[validators.\"Documentation/UndocumentedObjects\"]",
  "enabled = true",
  "# severity = \"warning\"  # Override default severity",
  "excluded_methods = [\"initialize\", \"/^_/\"]",
  "",
  "[validators.\"Tags/Order\"]",
  "enabled = true",
  "enforced_order = [\"param\", \"option\", \"yield\", \"yieldparam\", \"yieldreturn\", \"return\", \"raise\"]",
  "",
  "[validators.\"Warnings/UnknownTag\"]",
  "enabled = true",
  "",
  "[validators.\"Warnings/UnknownParameterName\"]",
  "enabled = true"]

/-- What is said after the configuration file has been written. -/
def createdText : String :=
  s!"Created {configFile}\n\nNext steps:\n  1. Edit {configFile} to configure validators\n  2. Run: {programName} check --registry .yardoc/registry.json\n"

/-- The text with blanks after it up to the given width. -/
def padded (width : Nat) (text : String) : String := text ++ "".pushn ' ' (width - text.length)

def validatorRow (name strategy severity description : String) : String :=
  padded 36 name ++ " " ++ padded 11 strategy ++ " " ++ padded 11 severity ++ " " ++ description ++
    "\n"

def rowOf (v : Validator) : String :=
  let strategy := match v.strategy with
    | .shell => "yard"
    | .inProcess => "in-process"
  let severity := match v.kind.defaultSeverity with
    | some s => s.name
    | none => "-"
  validatorRow v.name strategy severity v.description

/-- The list of validators and presets. -/
def validatorsText : String :=
  "Available validators:\n\n" ++ validatorRow "Name" "Strategy" "Severity" "Description" ++
    "".pushn '-' 100 ++ "\n" ++ String.join (Preset.builtins.map rowOf) ++
    "\nPresets:\n  default  - All validators (default)\n" ++
    "  offline  - In-process validators only, no yard needed\n" ++
    "\nUse --validators to filter specific validators, e.g.:\n" ++
    s!"  {programName} check --validators Tags/Order,Warnings/UnknownTag\n"

def helpText : String := textOfLines [
  "Documentation linter for Ruby projects",
  "",
  s!"Usage: {programName} [OPTIONS] <COMMAND>",
  "",
  "Commands:",
  "  check            Run documentation checks",
  "  list-validators  List available validators",
  "  init             Initialize configuration file",
  "  help             Print this message or the help of the given subcommand(s)",
  "",
  "Options:",
  "  -v, --verbose          Enable verbose output",
  s!"  -c, --config <CONFIG>  Path to configuration file [env: {configVariable}=]",
  "  -h, --help             Print help",
  "  -V, --version          Print version"]

/-! ## Log lines -/

/-- The characters that a character of a log line is shown as.  Those that could make a terminal
do something else than show text are written as numbers. -/
def logChar (c : Char) : List Char :=
  let n := c.toNat
  if n = 0x1B || n = 0x07 || n = 0x08 || n = 0x0C || n = 0x7F then
    '\\' :: 'x' :: Digest.byteChars (UInt8.ofNat n)
  else if 0x80 ≤ n && n ≤ 0x9F then '\\' :: 'u' :: '\x7b' :: Text.hexDigits n ++ ['\x7d']
  else [c]

/-- A log entry as it is shown. -/
def logLine (e : LogEntry) : String :=
  e.level.name ++ " " ++ String.ofList (e.text.toList.flatMap logChar)

end DocAudit.Cli
