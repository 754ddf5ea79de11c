import DocAudit.Files.FileSystem
import DocAudit.Files.IgnoreRule
import DocAudit.Pattern

/-!
# The user's own ignore rules

Inside of repositories a list of the user applies too.  Its place is a setting `excludesFile` of
the version control; without that setting it is the file `git/ignore` among the user's settings.

The setting is looked for in several files, and the first that has it decides: the file named by
the variable `GIT_CONFIG_GLOBAL`, the two files of the user, and the file of the system.
-/

namespace DocAudit.Files

/-- The values of environment variables. -/
abbrev Environment := String → Option String

namespace PersonalRules

/-- A line of a settings file that sets the place of the list.  Case and white space are those of
ASCII. -/
def settingPattern : Option Pattern :=
  (Pattern.compile ("(?m)^[\\t-\\r ]*(?i-u:excludesfile)[\\t-\\r ]*=[\\t-\\r ]*\"?" ++
    "[\\t-\\r ]*([^\\t-\\r ]+?)[\\t-\\r ]*\"?[\\t-\\r ]*$")).toOption

/-- The path with the home directory in the place of tildes. -/
def expandHome (home : Option String) (path : String) : String :=
  match home with
  | some dir => path.replace "~" dir
  | none => path

/-- The place of the list that a settings file names. -/
def placeIn? (fs : FileSystem) (home : Option String) (settings : String) : Option String := do
  let content ← (fs.read settings).toOption
  let groups ← (← settingPattern).captures? content
  some (expandHome home (← groups.head?))

def settingsDir? (env : Environment) : Option String :=
  match (env "XDG_CONFIG_HOME").filter (· ≠ "") with
  | some dir => some dir
  | none => (env "HOME").map (Path.join · ".config")

/-- The files that the setting is looked for in, in order. -/
def settingsFiles (env : Environment) : List String :=
  (env "GIT_CONFIG_GLOBAL").toList ++
    ((env "HOME").map (Path.join · ".gitconfig")).toList ++
    ((settingsDir? env).map (Path.join · "git/config")).toList ++
    [(env "GIT_CONFIG_SYSTEM").getD "/etc/gitconfig"]

/-- The place of the user's list. -/
def place? (fs : FileSystem) (env : Environment) : Option String :=
  ((settingsFiles env).findSome? (placeIn? fs (env "HOME"))).or
    ((settingsDir? env).map (Path.join · "git/ignore"))

/-- The user's rules; they are relative to the working directory. -/
def load (fs : FileSystem) (env : Environment) : RuleSet :=
  let dir := absolutePath fs.workingDir
  match (place? fs env).bind fun file => (fs.read file).toOption.map (file, ·) with
  | some (file, content) => (RuleSet.ofFile dir file content).1
  | none => RuleSet.ofRules dir []

end PersonalRules

end DocAudit.Files
