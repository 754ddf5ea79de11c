import DocAudit.Files.PersonalRules

/-!
# The configuration file of a check

A configuration file that is asked for is taken as it is.  Otherwise the nearest file with one of
the project names counts, from the checked directory upwards, then a file of the user, and
without any file the defaults hold.
-/

namespace DocAudit.Cli

open Files

/-- Where the configuration of a check comes from. -/
inductive ConfigSource where
  /-- A file that was asked for. -/
  | explicit (path : String)
  /-- A file of the project. -/
  | project (path : String)
  /-- A file of the user. -/
  | personal (path : String)
  | defaults
  deriving DecidableEq, Repr

/-- The name of the environment variable with the path of a configuration file. -/
def configVariable : String := "DOC_LINT_CONFIG"

/-- The name of the environment variable with the directory of the user's configuration. -/
def configDirVariable : String := "DOC_LINT_CONFIG_DIR"

/-- The name of the configuration file that is written for a new project. -/
def configFile : String := "doc-lint.toml"

/-- The names of configuration files in a project, the preferred one first. -/
def projectConfigNames : List String := [configFile, ".doc-lint.toml"]

/-- The directory whose configuration counts for a check of the paths: the first path if it is a
directory, else the directory around it. -/
def projectDir (fs : FileSystem) (paths : List String) : String :=
  match paths.head? with
  | none => "."
  | some path =>
    if fs.isDir path then path
    else ((Path.parent? path).filter (· ≠ "")).getD "."

/-- The nearest configuration file in a directory or around it. -/
def projectConfig? (fs : FileSystem) (dir : String) : Option String :=
  (Path.ancestors ((fs.canonical? dir).getD dir)).findSome? fun dir =>
    (projectConfigNames.map (Path.join dir)).find? fs.isFile

def personalConfig? (fs : FileSystem) (env : Environment) : Option String :=
  let dir := (env configDirVariable).or ((env "HOME").map (Path.join · ".doc-lint"))
  (dir.map (Path.join · "config.toml")).filter fs.isFile

/-- The source of the configuration for a check from the given directory on. -/
def ConfigSource.resolve (fs : FileSystem) (env : Environment) (dir : String)
    (requested : Option String) : ConfigSource :=
  match requested with
  | some path => .explicit path
  | none =>
    match projectConfig? fs dir with
    | some path => .project path
    | none =>
      match personalConfig? fs env with
      | some path => .personal path
      | none => .defaults

def ConfigSource.path? : ConfigSource → Option String
  | explicit path => some path
  | project path => some path
  | personal path => some path
  | defaults => none

end DocAudit.Cli
