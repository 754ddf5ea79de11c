import DocAudit.Command
import DocAudit.Log

/-!
# The command cache

A cache runs each command at most once: the first request for a fingerprint spawns the command
and stores its result, whether it succeeded or not, and every further request returns what is
stored.  Spawning is a function on a state, so that a spawner may answer the same command
differently each time.
-/

namespace DocAudit

/-- What spawning a command does: the result, the log entries and the spawner's next state. -/
structure Spawned (σ : Type) where
  execution : Execution
  log : Log
  state : σ

/-- A way to spawn commands, with a state of type `σ`. -/
abbrev Spawner (σ : Type) := Command → σ → Spawned σ

/-- The exit code of a command that could not be started. -/
def spawnFailureExitCode : Int := 127

/-- The results of the commands executed so far, by fingerprint. -/
structure Cache where
  entries : List (Fingerprint × Execution) := []
  deriving DecidableEq, Repr

namespace Cache

def get? (c : Cache) (f : Fingerprint) : Option Execution :=
  (c.entries.find? (·.1 = f)).map (·.2)

def size (c : Cache) : Nat := c.entries.length

def isEmpty (c : Cache) : Bool := c.entries.isEmpty

def display (c : Cache) : String := s!"CommandCache \x7b entries: {c.size}, .. \x7d"

/-- What executing a command through the cache gives. -/
structure Executed (σ : Type) where
  execution : Execution
  cache : Cache
  state : σ
  log : Log

/-- The log entry for a request that is answered from the cache. -/
def hitEntry (command : Command) : LogEntry :=
  let shown := (command.fingerprint.short?).getD ""
  .debug s!"Command cache hit {shown}: {command.display}"

/-- Executes a command, unless its result is stored. -/
def execute {σ : Type} (spawn : Spawner σ) (cache : Cache) (command : Command) (state : σ) :
    Executed σ :=
  match cache.get? command.fingerprint with
  | some execution => ⟨execution, cache, state, [hitEntry command]⟩
  | none =>
    let s := spawn command state
    ⟨s.execution, ⟨cache.entries ++ [(command.fingerprint, s.execution)]⟩, s.state, s.log⟩

def clear (_ : Cache) : Cache := {}

end Cache

end DocAudit
