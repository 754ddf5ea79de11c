import DocAudit.Cli.ReportText
import DocAudit.Cli.Texts
import DocAudit.Files.Sources
import DocAudit.Runner
import DocAudit.Text.Quoted

/-!
# The program

`Program.run` is the whole program as a function: from the arguments, the files, the environment
and a way to spawn commands to the exit code, the output, the log and the files afterwards.
-/

namespace DocAudit.Cli

open Files

/-- What a run of the program leaves behind; `σ` is the state of the spawner. -/
structure Outcome (σ : Type) where
  exitCode : Int := 0
  /-- The text on the standard output. -/
  output : String := ""
  /-- What has gone wrong, followed by its causes. -/
  errors : List String := []
  log : Log := []
  files : FileSystem
  spawner : σ

def errorExitCode : Int := 1

def misuseExitCode : Int := 2

namespace Program

variable {σ : Type}

/-- The outcome of a run that ends with an error. -/
def failed (fs : FileSystem) (state : σ) (log : Log) (errors : List String) : Outcome σ :=
  { exitCode := errorExitCode, errors, log, files := fs, spawner := state }

/-! ## Check -/

/-- The log entries about the source of the configuration. -/
def sourceLog : ConfigSource → Log
  | .project path => [.debug s!"Found project config: {path}"]
  | .personal path =>
    [.debug s!"Found global config: {path}", .info s!"Using global config: {path}"]
  | _ => []

/-- Loads the configuration, or tells what has gone wrong. -/
def loadConfig (fs : FileSystem) (source : ConfigSource) : Except (List String) Config :=
  match source.path? with
  | none => .ok {}
  | some path =>
    let failure := s!"Failed to load config: {path}"
    match fs.read path with
    | .error fault =>
      .error [failure, s!"Failed to read config file {path}: {fault.message}", fault.message]
    | .ok text =>
      match Config.ofText? text with
      | some config => .ok config
      | none => .error [failure, "Failed to parse config"]

/-- Loads the registry, or tells what has gone wrong. -/
def loadRegistry (fs : FileSystem) : Option String → Except (List String) Registry
  | none => .ok {}
  | some path =>
    let failure := s!"Failed to load registry: {path}"
    match fs.read path with
    | .error fault =>
      .error [failure, s!"Failed to read registry {path}: {fault.message}", fault.message]
    | .ok text =>
      match Registry.ofText? text with
      | some registry => .ok registry
      | none => .error [failure, "Failed to parse registry"]

def registryLog : Option String → Log
  | none => [.info "No registry given; in-process validators have no objects to check"]
  | some _ => []

def withExcludes (config : Config) (excludes : List String) : Config :=
  { config with
    allValidators :=
      { config.allValidators with exclude := config.allValidators.exclude ++ excludes } }

/-- The names of validators in a list with commas. -/
def validatorNames (list : String) : List String :=
  ((Text.split ',' list).map Text.trim).filter (· ≠ "")

/-- An error of the engine and its causes. -/
def engineErrors : EngineError → List String
  | .query validator cause => [EngineError.message (.query validator cause), cause.message]
  | e => [e.message]

def checkFiles (spawn : Spawner σ) (fs : FileSystem) (a : CheckArguments) (config : Config)
    (registry : Registry) (files : List String) (log : Log) (state : σ) : Outcome σ :=
  let runner : Runner :=
    { config
      validators := a.preset.validators
      registry
      files := some files
      only := a.validators.map validatorNames }
  let paths := Text.quotedPaths a.paths
  let log := log ++ runner.buildLog ++
    [.info s!"Checking {paths} with {runner.activeValidators.length} validators"]
  let step := runner.run spawn {} state
  match step.outcome with
  | .error e =>
    failed fs step.session.spawner (log ++ step.log) ("Check failed" :: engineErrors e)
  | .ok report =>
    { exitCode := report.exitCode
      output := showReport report a.format
      log := log ++ step.log
      files := fs
      spawner := step.session.spawner }

def check (spawn : Spawner σ) (fs : FileSystem) (env : Environment) (requested : Option String)
    (a : CheckArguments) (state : σ) : Outcome σ :=
  let source := ConfigSource.resolve fs env (projectDir fs a.paths) requested
  let log := sourceLog source
  match loadConfig fs source with
  | .error errors => failed fs state log errors
  | .ok config =>
    let config := withExcludes config a.excludes
    match sources fs env a.paths config.allValidators.exclude with
    | .error e =>
      failed fs state log [s!"Invalid exclude pattern: {e.pattern}", e.reason.message]
    | .ok (files, walkLog) =>
      let log := log ++ walkLog
      if files.isEmpty then
        let paths := Text.quotedPaths a.paths
        { log := log ++ [.warn s!"No .{sourceExtension} files found under {paths}"]
          files := fs
          spawner := state }
      else
        match loadRegistry fs a.registry with
        | .error errors => failed fs state log errors
        | .ok registry =>
          checkFiles spawn fs a config registry files (log ++ registryLog a.registry) state

/-! ## Other commands -/

/-- Writes the configuration file for a new project. -/
def init (fs : FileSystem) (force : Bool) (state : σ) : Outcome σ :=
  if fs.contains configFile && !force then
    failed fs state []
      [s!"Configuration file already exists at {configFile}. Use --force to overwrite."]
  else
    match fs.write configFile starterConfig with
    | .error fault => failed fs state [] [fault.message]
    | .ok fs => { output := createdText, files := fs, spawner := state }

def runInvocation (spawn : Spawner σ) (fs : FileSystem) (env : Environment) (i : Invocation)
    (state : σ) : Outcome σ :=
  match i.action with
  | .check a => check spawn fs env i.config a state
  | .listValidators => { output := validatorsText, files := fs, spawner := state }
  | .init force => init fs force state

/-- Runs the program with the given arguments. -/
def run (spawn : Spawner σ) (fs : FileSystem) (env : Environment) (args : List String)
    (state : σ) : Outcome σ :=
  match Request.ofArguments (env configVariable) args with
  | .run i => runInvocation spawn fs env i state
  | .showVersion => { output := versionText, files := fs, spawner := state }
  | .showHelp => { output := helpText, files := fs, spawner := state }
  | .misuse => { exitCode := misuseExitCode, files := fs, spawner := state }

end Program

end DocAudit.Cli
