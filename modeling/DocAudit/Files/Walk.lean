import DocAudit.Files.PersonalRules
import DocAudit.Files.Scope
import DocAudit.Log

/-!
# Walking through directories

A walk visits everything below a directory that is neither excluded nor ignored nor hidden, where
excluding comes before ignoring, and a rule that keeps an entry also keeps a hidden one.  What is
given to walk through is never left out itself.
-/

namespace DocAudit.Files

/-- Whether the name of an entry hides it. -/
def isHidden (path : String) : Bool :=
  (Text.afterLast (· = '/') path.toList).head? = some '.'

/-- An excluded pattern that cannot be read. -/
structure ExcludeError where
  pattern : String
  reason : IgnoreRule.Error
  deriving DecidableEq, Repr

/-- The rules that leave out what the patterns match. -/
def excludeRules (patterns : List String) : Except ExcludeError (List IgnoreRule) := do
  let rules ← patterns.mapM fun pattern =>
    match IgnoreRule.ofLine false ("!" ++ pattern) with
    | .ok rule => .ok rule
    | .error reason => .error ⟨pattern, reason⟩
  .ok (rules.filterMap id)

namespace Walk

structure Rules where
  excludes : RuleSet
  scopes : Scopes

def Rules.skips (r : Rules) (path : String) (isDir : Bool) : Bool :=
  let excluded := (r.excludes.verdict? (RuleSet.dropStart "./" path) isDir).map Verdict.reverse
  match excluded.or (r.scopes.verdict? path isDir) with
  | some verdict => verdict = .ignore
  | none => isHidden path

/-- The rules for the entries of a directory one further in. -/
def Rules.enter (r : Rules) (fs : FileSystem) (dir : String) (here : Entry) : Rules :=
  { r with scopes := r.scopes.enter (Scope.ofDirectory fs dir here).1 }

mutual

/-- The files that are visited at an entry with the given path. -/
def filesAt (fs : FileSystem) (r : Rules) (path : String) : Entry → List String
  | .file _ => if r.skips path false then [] else [path]
  | .dir entries =>
    if r.skips path true then []
    else filesIn fs (r.enter fs path (.dir entries)) path entries

/-- The files that are visited among the entries of a directory. -/
def filesIn (fs : FileSystem) (r : Rules) (dir : String) : List (String × Entry) → List String
  | [] => []
  | (name, entry) :: rest => filesAt fs r (Path.join dir name) entry ++ filesIn fs r dir rest

end

/-- The scopes of the directories around the one with the given names, the nearest first, and the
descriptions of the errors in their files, the farthest first. -/
def scopesAround (fs : FileSystem) (names : List String) : List Scope × List String :=
  let around := (List.range names.length).map fun n =>
    let dir := names.take n
    Scope.ofDirectory fs (absolutePath dir) ((fs.at? dir).getD (.dir []))
  ((around.map (·.1)).reverse, around.flatMap (·.2))

structure Result where
  files : List String := []
  log : Log := []

/-- The log entry for something that a walk cannot go on from. -/
def unreadable (reason : String) : LogEntry := .warn s!"Skipping unreadable entry: {reason}"

/-- Walks through what a path leads to.  A single dash is no path. -/
def run (fs : FileSystem) (env : Environment) (excludes : RuleSet) (path : String) : Result :=
  if path = "-" then {}
  else
    match fs.resolve path, fs.lookup path with
    | .ok names, .ok (.dir entries) =>
      let (outer, faults) := scopesAround fs names
      let scopes : Scopes :=
        { inner := [], outer, base := absolutePath names, personal := PersonalRules.load fs env }
      let rules := Rules.enter ⟨excludes, scopes⟩ fs path (.dir entries)
      { files := filesIn fs rules path entries
        log := if faults.isEmpty then [] else [unreadable ("\n".intercalate faults)] }
    | _, .ok (.file _) => { files := [path] }
    | _, .error fault =>
      { log := [unreadable s!"{path}: IO error for operation on {path}: {fault.message}"] }
    | .error _, .ok _ => {}

end Walk

end DocAudit.Files
