import DocAudit.Files.Walk

/-!
# The source files to check

The arguments of a check are files and directories.  A file counts whatever its name, a directory
for the source files that a walk through it finds.  The list is sorted by path and names no path
twice.
-/

namespace DocAudit.Files

def sourceExtension : String := "rb"

def isSource (path : String) : Bool := Path.extension? path = some sourceExtension

/-- Whether `a` comes before `b` or is the same path. -/
def comesBefore (a b : String) : Bool := (Path.compare a b).isLE

/-- The list without paths that are the same as the one before. -/
def dropRepeats : List String → List String
  | [] => []
  | [p] => [p]
  | p :: q :: rest =>
    if Path.compare p q = .eq then dropRepeats (p :: rest) else p :: dropRepeats (q :: rest)

/-- The paths in order, each once, by the name that came first. -/
def canonicalList (paths : List String) : List String := dropRepeats (paths.mergeSort comesBefore)

/-- The files that an argument stands for: itself if it is a file, otherwise the source files among
what a walk through it visits. -/
def filesOf (isFile : String → Bool) (walk : String → List String) (path : String) : List String :=
  if isFile path then [path] else (walk path).filter fun q => isFile q && isSource q

/-- The source files of the arguments, given which paths are files and what a walk through a path
visits. -/
def expand (isFile : String → Bool) (walk : String → List String) (paths : List String) :
    List String :=
  canonicalList (paths.flatMap (filesOf isFile walk))

/-- The source files of the arguments with the log entries on the way, or the reason why an
excluded pattern cannot be read, given which paths are files and how to walk through a path under
rules.  Patterns matter only if there is something to walk through. -/
def gather (isFile : String → Bool) (walk : List IgnoreRule → String → Walk.Result)
    (paths excludes : List String) : Except ExcludeError (List String × Log) := do
  let walked := paths.filter fun p => !isFile p
  let rules ← if walked.isEmpty then .ok [] else excludeRules excludes
  .ok (expand isFile (fun p => (walk rules p).files) paths,
    walked.flatMap fun p => (walk rules p).log)

/-- The source files of the arguments in a file system. -/
def sources (fs : FileSystem) (env : Environment) (paths excludes : List String) :
    Except ExcludeError (List String × Log) :=
  gather fs.isFile (fun rules path => Walk.run fs env (RuleSet.ofRules path rules) path) paths
    excludes

end DocAudit.Files
