import DocAudit.Files.FileSystem
import DocAudit.Files.IgnoreRule

/-!
# The rules that hold in a directory

Rules come from ignore files in a directory and in the directories around it, and, inside of a
repository, from the files that its version control reads.  The nearest directory decides.  Of the
kinds of files, `.ignore` comes first, then `.gitignore`, then the repository's own list, then
the user's list.

* `Scope.ofDirectory` collects the rules of one directory.
* `Scopes.verdict?` is what all scopes together say about a path.
-/

namespace DocAudit.Files

/-- The rules of one directory. -/
structure Scope where
  dir : String
  /-- The rules of `.ignore`. -/
  general : RuleSet
  /-- The rules of `.gitignore`. -/
  versioned : RuleSet
  /-- The rules of the repository's own list. -/
  repository : RuleSet
  /-- Whether the directory is the top of a repository. -/
  isTop : Bool
  deriving DecidableEq, Repr

namespace Scope

def firstLine? (text : String) : Option String := (Text.lines text).head?

/-- The directory of a linked working tree's repository: the file `.git` names the directory of
the tree, and that one holds a file that names the directory that all trees share. -/
def sharedDir? (fs : FileSystem) (link : String) : Option String := do
  let dir ← RuleSet.dropStart? "gitdir: " (← firstLine? link)
  let shared ← firstLine? (← (fs.read (Path.join dir "commondir")).toOption)
  some (if shared.toList.head? = some '.' then Path.join dir shared else shared)

/-- The directory that holds the data of the repository with its top at `dir`. -/
def dataDir? (fs : FileSystem) (dir : String) (marker : Option Entry) : Option String :=
  match marker with
  | some (.file link) => sharedDir? fs link
  | _ => some (Path.join dir ".git")

/-- The rules of a file that applies to the directory `dir`, and its errors.  A file that cannot
be read has neither. -/
def rulesOf (dir file : String) (content : Option String) : RuleSet × List String :=
  match content with
  | some text => RuleSet.ofFile dir file text
  | none => (RuleSet.ofRules dir [], [])

/-- The content of an entry, if it is a file. -/
def contentOf? : Entry → Option String
  | .file content => some content
  | .dir _ => none

/-- The rules of a directory and the descriptions of the errors in its files. -/
def ofDirectory (fs : FileSystem) (dir : String) (here : Entry) : Scope × List String :=
  let marker := here.child? ".git"
  let inside (name : String) :=
    rulesOf dir (Path.join dir name) ((here.child? name).bind contentOf?)
  let general := inside ".ignore"
  let versioned := inside ".gitignore"
  let repository := match dataDir? fs dir marker with
    | some data =>
      let file := Path.join data "info/exclude"
      rulesOf dir file (fs.read file).toOption
    | none => rulesOf dir dir none
  ({ dir
     general := general.1
     versioned := versioned.1
     repository := repository.1
     isTop := marker.isSome || (here.child? ".jj").isSome },
    general.2 ++ versioned.2 ++ repository.2)

end Scope

/-- All scopes that matter for the entries of a directory. -/
structure Scopes where
  /-- The scopes from the directory up to the one that the walk has started in. -/
  inner : List Scope
  /-- The scopes of the directories around, the nearest first, by absolute paths. -/
  outer : List Scope
  /-- The absolute path of the directory that the walk has started in. -/
  base : String
  /-- The rules of the user's list. -/
  personal : RuleSet
  deriving DecidableEq, Repr

namespace Scopes

/-- The scopes one directory further in. -/
def enter (s : Scopes) (scope : Scope) : Scopes := { s with inner := scope :: s.inner }

/-- The path of an entry relative to the directory that the walk has started in. -/
def fromStart (s : Scopes) (path : String) : String :=
  match s.inner.getLast? with
  | some start =>
    if Path.isHere start.dir then path
    else
      RuleSet.dropStart "/" (RuleSet.dropStart (RuleSet.dropStart "./" start.dir) path)
  | none => path

/-- The absolute path of an entry. -/
def absolute (s : Scopes) (path : String) : String := Path.join s.base (s.fromStart path)

/-- The scopes with the path that each of them knows an entry by. -/
def views (s : Scopes) (path : String) : List (Scope × String) :=
  s.inner.map (·, path) ++ s.outer.map (·, s.absolute path)

/-- The views up to the top of the repository, or none outside of one. -/
def repositoryViews : List (Scope × String) → List (Scope × String)
  | [] => []
  | v :: rest => if v.1.isTop then [v] else v :: repositoryViews rest

/-- What the ignore files say about an entry. -/
def verdict? (s : Scopes) (path : String) (isDir : Bool) : Option Verdict :=
  let path := RuleSet.dropStart "./" path
  let views := s.views path
  let ask (views : List (Scope × String)) (rules : Scope → RuleSet) : Option Verdict :=
    views.findSome? fun v => (rules v.1).verdict? v.2 isDir
  let general := ask views (·.general)
  if views.any (·.1.isTop) then
    let near := repositoryViews views
    ((general.or (ask near (·.versioned))).or (ask near (·.repository))).or
      (s.personal.verdict? path isDir)
  else general

end Scopes

end DocAudit.Files
