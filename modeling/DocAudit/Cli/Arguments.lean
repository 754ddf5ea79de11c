import DocAudit.Builtin.Preset
import DocAudit.Path

/-!
# The command line

The arguments of the program are read from left to right.  Options may be written `--name value`,
`--name=value`, `-n value`, `-nvalue` or `-n=value`, switches of one letter may be joined, and
after `--` there are no more options.  Options that belong to the program as a whole may stand
before the name of the command or after it; then the one after it counts.

`Arguments.parse` reads them into a `Request`.
-/

namespace DocAudit.Cli

/-- The forms in which a report can be shown. -/
inductive Format where
  | text
  | json
  | compact
  deriving DecidableEq, Repr

def Format.ofName? (name : String) : Option Format :=
  if name = "text" then some .text
  else if name = "json" then some .json
  else if name = "compact" then some .compact
  else none

def presetOfName? (name : String) : Option Preset :=
  if name = "default" then some .standard
  else if name = "offline" then some .offline
  else none

structure CheckArguments where
  /-- The files and directories to check. -/
  paths : List String := ["."]
  /-- The file with the code objects. -/
  registry : Option String := none
  format : Format := .text
  /-- The names of the validators to run, with commas between them. -/
  validators : Option String := none
  preset : Preset := .standard
  /-- Further patterns of files to leave out. -/
  excludes : List String := []
  deriving DecidableEq, Repr

inductive Action where
  | check (arguments : CheckArguments)
  | listValidators
  | init (force : Bool)
  deriving DecidableEq, Repr

/-- A command to the program. -/
structure Invocation where
  verbose : Bool
  config : Option String
  action : Action
  deriving DecidableEq, Repr

/-- What the arguments ask for. -/
inductive Request where
  | run (invocation : Invocation)
  | showVersion
  | showHelp
  /-- The arguments make no sense. -/
  | misuse
  deriving DecidableEq, Repr

/-! ## Options -/

/-- The options of all commands. -/
inductive OptionName where
  | verbose
  | config
  | registry
  | format
  | validators
  | preset
  | exclude
  | force
  | help
  | version
  deriving DecidableEq, Repr

/-- How an option is written. -/
structure OptionSpec where
  name : OptionName
  long : String
  short : Option Char := none
  takesValue : Bool := true
  deriving DecidableEq, Repr

/-- The options of the program as a whole. -/
def sharedOptions : List OptionSpec :=
  [⟨.verbose, "verbose", some 'v', false⟩, ⟨.config, "config", some 'c', true⟩,
    ⟨.help, "help", some 'h', false⟩]

/-- The options before the name of the command. -/
def mainOptions : List OptionSpec := sharedOptions ++ [⟨.version, "version", some 'V', false⟩]

def checkOptions : List OptionSpec :=
  sharedOptions ++
    [⟨.registry, "registry", some 'r', true⟩, ⟨.format, "format", some 'f', true⟩,
      ⟨.validators, "validators", none, true⟩, ⟨.preset, "preset", none, true⟩,
      ⟨.exclude, "exclude", some 'e', true⟩]

/-- The options of the command that writes a configuration file. -/
def initOptions : List OptionSpec := sharedOptions ++ [⟨.force, "force", none, false⟩]

def OptionName.accepts (name : OptionName) (value : String) : Bool :=
  match name with
  | .config => value ≠ ""
  | .registry => value ≠ ""
  | .format => (Format.ofName? value).isSome
  | .preset => (presetOfName? value).isSome
  | _ => true

/-! ## Reading -/

/-- Why reading has ended early. -/
inductive Stop where
  | misuse
  | help
  | version
  deriving DecidableEq, Repr

/-- The arguments that have been read. -/
structure Given where
  options : List (OptionName × String) := []
  operands : List String := []
  deriving DecidableEq, Repr

namespace Given

def has (g : Given) (name : OptionName) : Bool := g.options.any (·.1 = name)

def value? (g : Given) (name : OptionName) : Option String :=
  (g.options.find? (·.1 = name)).map (·.2)

def values (g : Given) (name : OptionName) : List String :=
  (g.options.filter (·.1 = name)).map (·.2)

/-- Adds an option.  Only excluded patterns may be given more than once. -/
def add (g : Given) (name : OptionName) (value : String) : Except Stop Given :=
  if name = .help then .error .help
  else if name = .version then .error .version
  else if (g.has name && name ≠ .exclude) || !name.accepts value then .error .misuse
  else .ok { g with options := g.options ++ [(name, value)] }

end Given

def looksLikeOption (word : String) : Bool := word.toList.head? = some '-' && word ≠ "-"

/-- The name and the value of a word `--name=value`. -/
def splitLong (cs : List Char) : String × Option String :=
  match cs.span (· ≠ '=') with
  | (name, _ :: value) => (String.ofList name, some (String.ofList value))
  | (name, []) => (String.ofList name, none)

/-- Reads an option with a long name.  The second component is the option that waits for its
value. -/
def readLong (specs : List OptionSpec) (g : Given) (cs : List Char) :
    Except Stop (Given × Option OptionName) :=
  let (name, value) := splitLong cs
  match specs.find? (·.long = name), value with
  | some spec, some v =>
    if spec.takesValue then (g.add spec.name v).map (·, none) else .error .misuse
  | some spec, none =>
    if spec.takesValue then .ok (g, some spec.name) else (g.add spec.name "").map (·, none)
  | none, _ => .error .misuse

/-- Reads options of one letter.  The second component is the option that waits for its value. -/
def readShort (specs : List OptionSpec) (g : Given) :
    List Char → Except Stop (Given × Option OptionName)
  | [] => .ok (g, none)
  | c :: cs =>
    match specs.find? (·.short = some c) with
    | none => .error .misuse
    | some spec =>
      if spec.takesValue then
        match cs with
        | [] => .ok (g, some spec.name)
        | '=' :: value => (g.add spec.name (String.ofList value)).map (·, none)
        | value => (g.add spec.name (String.ofList value)).map (·, none)
      else
        match g.add spec.name "" with
        | .ok g => readShort specs g cs
        | .error e => .error e

/-- Reads the words of a command with the given options and operands.  `waiting` is the option
that waits for its value, and `plain` tells that there are no more options. -/
def readWords (specs : List OptionSpec) (isOperand : String → Bool) (g : Given)
    (waiting : Option OptionName) (plain : Bool) : List String → Except Stop Given
  | [] => if waiting.isSome then .error .misuse else .ok g
  | word :: words =>
    match waiting with
    | some name =>
      if looksLikeOption word then .error .misuse
      else
        match g.add name word with
        | .ok g => readWords specs isOperand g none plain words
        | .error e => .error e
    | none =>
      if plain || !looksLikeOption word then
        if isOperand word then
          readWords specs isOperand { g with operands := g.operands ++ [word] } none plain words
        else .error .misuse
      else if word = "--" then readWords specs isOperand g none true words
      else
        let read := match word.toList with
          | '-' :: '-' :: cs => readLong specs g cs
          | cs => readShort specs g cs.tail
        match read with
        | .ok (g, waiting) => readWords specs isOperand g waiting plain words
        | .error e => .error e

inductive CommandName where
  | check
  | listValidators
  | init
  | help
  deriving DecidableEq, Repr

def CommandName.ofName? (name : String) : Option CommandName :=
  if name = "check" then some .check
  else if name = "list-validators" then some .listValidators
  else if name = "init" then some .init
  else if name = "help" then some .help
  else none

/-- Reads the options before the name of the command; the result is what they are, the command
and the words after it. -/
def readMain (g : Given) (waiting : Option OptionName) :
    List String → Except Stop (Given × CommandName × List String)
  | [] => .error .misuse
  | word :: words =>
    match waiting with
    | some name =>
      if looksLikeOption word then .error .misuse
      else
        match g.add name word with
        | .ok g => readMain g none words
        | .error e => .error e
    | none =>
      if !looksLikeOption word then
        match CommandName.ofName? word with
        | some command => .ok (g, command, words)
        | none => .error .misuse
      else
        let read : Except Stop (Given × Option OptionName) := match word.toList with
          | '-' :: '-' :: [] => .error .misuse
          | '-' :: '-' :: cs => readLong mainOptions g cs
          | cs => readShort mainOptions g cs.tail
        match read with
        | .ok (g, waiting) => readMain g waiting words
        | .error e => .error e

def checkArguments (g : Given) : CheckArguments :=
  { paths := if g.operands.isEmpty then ["."] else g.operands
    registry := g.value? .registry
    format := ((g.value? .format).bind Format.ofName?).getD .text
    validators := g.value? .validators
    preset := ((g.value? .preset).bind presetOfName?).getD .standard
    excludes := g.values .exclude }

/-- Reads the words after `help`: nothing, or the name of one command. -/
def readHelp : List String → Stop
  | [] => .help
  | [word] => if (CommandName.ofName? word).isSome then .help else .misuse
  | _ => .misuse

/-- Reads the words of a command.  Only a check has operands, which are paths. -/
def readAction (command : CommandName) (words : List String) : Except Stop (Given × Action) := do
  match command with
  | .check =>
    let g ← readWords checkOptions (· ≠ "") {} none false words
    .ok (g, .check (checkArguments g))
  | .listValidators =>
    let g ← readWords sharedOptions (fun _ => false) {} none false words
    .ok (g, .listValidators)
  | .init =>
    let g ← readWords initOptions (fun _ => false) {} none false words
    .ok (g, .init (g.has .force))
  | .help => .error (readHelp words)

/-- The configuration file that is asked for: the option after the command, then the one before
it, then the environment.  An empty name in the environment is a misuse unless nothing has to
look there. -/
def requestedConfig (outer inner : Given) (environment : Option String) :
    Except Stop (Option String) :=
  let options := (inner.value? .config).or (outer.value? .config)
  if environment = some "" && !(outer.has .config && inner.has .config) then .error .misuse
  else .ok (options.or (environment.filter (· ≠ "")))

/-- Reads the arguments; `config` is the name of a configuration file in the environment. -/
def readInvocation (config : Option String) (args : List String) : Except Stop Invocation := do
  let (outer, command, words) ← readMain {} none args
  let (inner, action) ← readAction command words
  .ok
    { verbose := outer.has .verbose || inner.has .verbose
      config := ← requestedConfig outer inner config
      action }

def Request.ofArguments (config : Option String) (args : List String) : Request :=
  match readInvocation config args with
  | .ok invocation => .run invocation
  | .error .version => .showVersion
  | .error .help => .showHelp
  | .error .misuse => .misuse

end DocAudit.Cli
