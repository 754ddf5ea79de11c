import DocAudit.Command.Cache
import DocAudit.Files.PersonalRules

/-!
# Machines

A machine has files, an environment, and programs that commands can start.  A program is a
function of its arguments.  A name with a slash is the path of a program; any other name is
looked for in the directories of the variable `PATH`.

`Machine.spawner` runs commands on a machine and remembers what it has started.
-/

namespace DocAudit.Host

open Files

/-- A program: what running it with arguments gives. -/
abbrev Program := List String → Execution

structure Machine where
  files : FileSystem
  env : Environment
  /-- The files that are programs, by absolute path. -/
  programs : List (String × Program)

/-- Why a command cannot be started. -/
inductive StartFault where
  /-- A name or argument holds the character that ends texts for the system. -/
  | nulByte
  | file (fault : Fault)
  deriving DecidableEq, Repr

def StartFault.message : StartFault → String
  | .nulByte => "nul byte found in provided data"
  | .file fault => fault.message

def hasNul (text : String) : Bool := text.toList.any (·.toNat = 0)

namespace Machine

/-- The program at a path, with its absolute path. -/
def programAt (m : Machine) (path : String) : Except Fault (String × Program) := do
  let place := absolutePath (← m.files.resolve path)
  match m.programs.find? (·.1 = place) with
  | some found => .ok found
  | none => .error .permissionDenied

/-- The directories that programs are looked for in. -/
def searchPath (m : Machine) : List String := Text.split ':' ((m.env "PATH").getD "/bin:/usr/bin")

/-- The first program with the name in one of the directories.  A file that is no program is
remembered as the reason for a failure. -/
def search (m : Machine) (name : String) (fault : Fault) :
    List String → Except Fault (String × Program)
  | [] => .error fault
  | dir :: dirs =>
    match m.programAt (Path.join dir name) with
    | .ok found => .ok found
    | .error .permissionDenied => m.search name .permissionDenied dirs
    | .error .nameTooLong => .error .nameTooLong
    | .error _ => m.search name fault dirs

/-- The program that a command starts. -/
def locate (m : Machine) (c : Command) : Except StartFault (String × Program) :=
  if (c.program :: c.args).any hasNul then .error .nulByte
  else
    let found :=
      if c.program = "" then .error .notFound
      else if c.program.toList.contains '/' then m.programAt c.program
      else if nameLimit < c.program.utf8ByteSize then .error .nameTooLong
      else m.search c.program .notFound m.searchPath
    found.mapError .file

/-- Spawns commands on the machine.  The state lists the started programs with their arguments. -/
def spawner (m : Machine) : Spawner (List (String × List String)) := fun c started =>
  let opening := .debug s!"Spawning: {c.display}"
  match m.locate c with
  | .ok (path, program) => ⟨program c.args, [opening], started ++ [(path, c.args)]⟩
  | .error fault =>
    ⟨.failure s!"failed to run `{c.program}`: {fault.message}" spawnFailureExitCode,
      [opening, .warn s!"Failed to spawn `{c.program}`: {fault.message}"], started⟩

end Machine

end DocAudit.Host
