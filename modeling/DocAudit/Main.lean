import DocAudit.Cli.Program
import DocAudit.Host.Machine

/-!
# The command line program

The outer layer of the program: it takes a picture of the files that can matter, runs
`Cli.Program.run` on it, writes what that has written, and shows the output.  It starts no other
programs, so that validators that need one report that it cannot be found.
-/

namespace DocAudit.Outer

open Files

/-- The names of files whose content can matter wherever they are. -/
def relevantNames : List String :=
  [".ignore", ".gitignore", ".git", "exclude", "commondir"] ++ Cli.projectConfigNames

/-- The directories inside of a repository's data that can matter. -/
def relevantData : List String := ["info"]

/-- The content of a file; a file that is no text counts as empty. -/
def contentOf (path : String) : IO String := do
  try IO.FS.readFile path catch _ => pure ""

/-- A picture of what is at a path.  Only files that can matter are read. -/
partial def picture (path name : String) : IO (Option Entry) := do
  let place := (← IO.currentDir) / path
  if ← place.isDir then
    let mut entries := []
    for entry in ← place.readDir do
      let child := entry.fileName
      if name ≠ ".git" || relevantData.contains child then
        match ← picture (Path.join path child) child with
        | some e => entries := (child, e) :: entries
        | none => pure ()
    return some (.dir entries)
  else if ← place.pathExists then
    if relevantNames.contains name then return some (.file (← contentOf path))
    else return some (.file "")
  else return none

/-- The names from the root on of the place that a path names in a directory. -/
def placeFrom (dir : List String) (path : String) : List String :=
  (Path.parts path).foldl
    (fun names part =>
      if part = "" || part = "." then names
      else if part = ".." then names.dropLast
      else names ++ [part])
    (if Path.isAbsolute path then [] else dir)

/-- The picture with everything below a path added. -/
def addTree (dir : List String) (root : Entry) (path : String) : IO Entry := do
  let names := placeFrom dir path
  match ← picture (absolutePath names) ((names.getLast?).getD "") with
  | some entry => return Entry.graft entry names root
  | none => return root

/-- The picture with a file and its content added, if there is such a file. -/
def addFile (dir : List String) (root : Entry) (path : String) : IO Entry := do
  let names := placeFrom dir path
  let place := (← IO.currentDir) / absolutePath names
  if (← place.pathExists) && !(← place.isDir) then
    return Entry.graft (.file (← contentOf (absolutePath names))) names root
  else return root

/-- The picture with the files that can matter in the directories around a place added. -/
def addAround (root : Entry) (names : List String) : IO Entry := do
  let files := (List.range (names.length + 1)).flatMap fun n =>
    (relevantNames ++ [".git/info/exclude"]).map (Path.join (absolutePath (names.take n)))
  files.foldlM (addFile []) root

/-- The trees and the single files that an invocation refers to. -/
def references (env : Environment) : Cli.Request → List String × List String
  | .run i =>
    let settings := (PersonalRules.settingsDir? env).toList
    let home := (env "HOME").toList
    let personal := (env Cli.configDirVariable).toList ++ home.map (Path.join · ".doc-lint")
    let files := i.config.toList ++ personal.map (Path.join · "config.toml") ++
      home.map (Path.join · ".gitconfig") ++
      settings.flatMap fun d => [Path.join d "git/config", Path.join d "git/ignore"]
    match i.action with
    | .check a => (a.paths, files ++ a.registry.toList)
    | _ => ([], files ++ [Cli.configFile])
  | _ => ([], [])

/-- The values of the environment variables that can matter. -/
def environment : IO Environment := do
  let names := ["HOME", "PATH", "XDG_CONFIG_HOME", Cli.configVariable, Cli.configDirVariable]
  let pairs ← names.mapM fun name => return (name, ← IO.getEnv name)
  return fun name => (pairs.find? (·.1 = name)).bind (·.2)

def errorText : List String → String
  | [] => ""
  | [e] => s!"Error: {e}\n"
  | [e, cause] => s!"Error: {e}\n\nCaused by:\n    {cause}\n"
  | e :: causes =>
    let lines := causes.zipIdx.map fun (cause, n) => s!"    {n}: {cause}\n"
    s!"Error: {e}\n\nCaused by:\n" ++ String.join lines

def isShown (request : Cli.Request) (e : LogEntry) : Bool :=
  match request with
  | .run i => i.verbose || e.level ≠ .debug
  | _ => true

/-- Runs the program on a picture of the files. -/
def run (args : List String) : IO UInt32 := do
  let env ← environment
  let dir := placeFrom [] (toString (← IO.currentDir))
  let request := Cli.Request.ofArguments (env Cli.configVariable) args
  let (trees, files) := references env request
  let root ← (trees.map (placeFrom dir)).foldlM addAround (← addAround (.dir []) dir)
  let root ← trees.foldlM (addTree dir)
    (Files.Entry.graft ((root.descend? dir).getD (.dir [])) dir root)
  let root ← files.foldlM (addFile dir) root
  let machine : Host.Machine := { files := ⟨root, dir⟩, env, programs := [] }
  let outcome := Cli.Program.run machine.spawner machine.files env args []
  match outcome.files.read Cli.configFile, machine.files.read Cli.configFile with
  | .ok content, before =>
    if before.toOption ≠ some content then IO.FS.writeFile Cli.configFile content
  | .error _, _ => pure ()
  for entry in outcome.log.filter (isShown request) do
    IO.eprintln (Cli.logLine entry)
  IO.print outcome.output
  IO.eprint (errorText outcome.errors)
  if request = .misuse then IO.eprint Cli.helpText
  return UInt32.ofNat outcome.exitCode.toNat

end DocAudit.Outer

/-- Runs the program. -/
def main (args : List String) : IO UInt32 := DocAudit.Outer.run args
