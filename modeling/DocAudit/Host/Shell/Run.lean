import DocAudit.Assoc
import DocAudit.Host.Machine
import DocAudit.Host.Shell.Format
import DocAudit.Host.Shell.Script

/-!
# Running shell scripts

A script runs in a state with bindings and the outputs written so far.  `shell` is the program
that runs the script given as its argument.
-/

namespace DocAudit.Host.Shell

/-- How a script has ended before its last command. -/
inductive Ending where
  | exit (code : Nat)
  /-- By a signal. -/
  | signal
  deriving DecidableEq, Repr

structure State where
  name : String
  args : List String
  bindings : List (String × String) := []
  /-- The exit code of the last command. -/
  status : Nat := 0
  output : List UInt8 := []
  complaints : List UInt8 := []
  ending : Option Ending := none

structure Effect where
  status : Nat := 0
  output : List UInt8 := []
  complaint : Option String := none
  ending : Option Ending := none

/-! ## Words -/

/-- The number of the running process; there is one process only. -/
def processNumber : String := "1"

def State.value (s : State) (name : String) : String :=
  match name with
  | "?" => toString s.status
  | "#" => toString s.args.length
  | "$" => processNumber
  | "0" => s.name
  | "@" => " ".intercalate s.args
  | "*" => " ".intercalate s.args
  | _ =>
    match Text.readCount name with
    | some n => (s.args[n - 1]?).getD ""
    | none => (Assoc.get? name s.bindings).getD ""

/-- Whether a character separates words in the value of a variable. -/
def isSeparator (c : Char) : Bool := c = ' ' || c = '\t' || c = '\n'

/-- The words that the characters make; `word` is the one under way. -/
def splitValue (word : Option String) : List Char → List String × Option String
  | [] => ([], word)
  | c :: cs =>
    if isSeparator c then
      let r := splitValue none cs
      (word.toList ++ r.1, r.2)
    else splitValue (some (word.getD "" ++ String.singleton c)) cs

/-- The texts one after the other as words of their own, the first joined to the word under
way. -/
def joinAll (word : Option String) : List String → List String × Option String
  | [] => ([], word)
  | [a] => ([], some (word.getD "" ++ a))
  | a :: as =>
    let r := joinAll none as
    ((word.getD "" ++ a) :: r.1, r.2)

/-- The texts that a word stands for; `word` is the one under way. -/
def State.expand (s : State) (word : Option String) : Word → List String
  | [] => word.toList
  | .char c :: ps => s.expand (some (word.getD "" ++ String.singleton c)) ps
  | .quotes :: ps =>
    if ps = [.variable "@" true] && s.args.isEmpty then word.toList
    else s.expand (some (word.getD "")) ps
  | .variable "@" true :: ps =>
    let r := joinAll word s.args
    r.1 ++ s.expand r.2 ps
  | .variable name true :: ps => s.expand (some (word.getD "" ++ s.value name)) ps
  | .variable name false :: ps =>
    let r := splitValue word (s.value name).toList
    r.1 ++ s.expand r.2 ps

/-- The text that a word stands for when it is not split. -/
def State.expandWhole (s : State) (w : Word) : String := " ".intercalate (s.expand none w)

/-- The name and the value of a word that sets a variable. -/
def assignment? (w : Word) : Option (String × Word) :=
  let name := w.takeWhile fun p => match p with
    | .char c => isNameChar c
    | _ => false
  match w.drop name.length with
  | .char '=' :: value =>
    let text := String.ofList (name.filterMap fun p => match p with
      | .char c => some c
      | _ => none)
    if (text.toList.head?).any isNameStart then some (text, value) else none
  | _ => none

/-! ## Commands -/

def endingSignals : List String :=
  ["HUP", "INT", "QUIT", "ILL", "TRAP", "ABRT", "BUS", "FPE", "KILL", "USR1", "SEGV", "USR2",
    "PIPE", "ALRM", "TERM",
    "1", "2", "3", "4", "5", "6", "7", "8", "9", "10", "11", "12", "13", "14", "15"]

def kill (signal : String) (target : String) : Effect :=
  if target = processNumber && endingSignals.contains signal then { ending := some .signal } else {}

def exit (status : Nat) : List String → Effect
  | [] => { ending := some (.exit status) }
  | code :: _ =>
    match Text.readCount code with
    | some n => { ending := some (.exit (n % 256)) }
    | none =>
      { complaint := some s!"exit: Illegal number: {code}", status := 2, ending := some (.exit 2) }

/-- Writes its arguments. -/
def echo (args : List String) : Effect :=
  let (isOpen, args) := match args with
    | "-n" :: rest => (true, rest)
    | _ => (false, args)
  let text := " ".intercalate args
  let (bytes, isCut) := escaped (text.length + 1) text.toList
  { output := bytes ++ if isOpen || isCut then [] else [10] }

/-- Runs a command that is part of the shell. -/
def builtin (status : Nat) : List String → Effect
  | [] => {}
  | ":" :: _ => {}
  | "true" :: _ => {}
  | "sleep" :: _ => {}
  | "cat" :: _ => {}
  | "false" :: _ => { status := 1 }
  | "exit" :: args => exit status args
  | "echo" :: args => echo args
  | ["printf"] => { status := 2, complaint := some "printf: usage: printf format [arg ...]" }
  | "printf" :: format :: args => { output := formatted format args }
  | ["kill", "-s", signal, target] => kill signal target
  | ["kill", signal, target] => kill (String.ofList (signal.toList.drop 1)) target
  | ["kill", target] => kill "TERM" target
  | name :: _ => { status := 127, complaint := some s!"{name}: not found" }

/-- Where the outputs of a command go; nothing means that they are lost. -/
structure Routing where
  output : Option Channel := some .output
  complaints : Option Channel := some .complaints

/-- Sends an output elsewhere. -/
def Routing.redirect (s : State) (r : Routing) : Redirection → Routing
  | .file .output _ => { r with output := none }
  | .file .complaints _ => { r with complaints := none }
  | .channel c target =>
    let place := match s.expandWhole target with
      | "1" => r.output
      | "2" => r.complaints
      | _ => none
    match c with
    | .output => { r with output := place }
    | .complaints => { r with complaints := place }

def State.write (s : State) (place : Option Channel) (bytes : List UInt8) : State :=
  match place with
  | some .output => { s with output := s.output ++ bytes }
  | some .complaints => { s with complaints := s.complaints ++ bytes }
  | none => s

/-- A complaint as the shell writes it. -/
def State.complaint (s : State) (line : Nat) (text : String) : List UInt8 :=
  Text.utf8 s!"{s.name}: {line}: {text}\n"

/-- Sets the bindings at the start of a command; the result holds the other words too. -/
def State.assign (s : State) : List Word → State × List Word
  | [] => (s, [])
  | w :: ws =>
    match assignment? w with
    | some (name, value) =>
      State.assign { s with bindings := Assoc.insert name (s.expandWhole value) s.bindings } ws
    | none => (s, w :: ws)

def State.runStep (s : State) (step : Step) : State :=
  let (s, words) := s.assign step.words
  let routing : Routing := step.redirections.foldl (Routing.redirect s) {}
  let effect := builtin s.status (words.flatMap (s.expand none))
  let complaint := match effect.complaint with
    | some text => s.complaint step.line text
    | none => []
  let s := (s.write routing.output effect.output).write routing.complaints complaint
  { s with status := effect.status, ending := effect.ending }

/-- Whether a command is to be run. -/
def State.allows (s : State) : Condition → Bool
  | .always => true
  | .afterSuccess => s.status = 0
  | .afterFailure => s.status ≠ 0

def State.runSteps (s : State) : List Step → State
  | [] => s
  | step :: steps =>
    if s.ending.isSome then s
    else if s.allows step.condition then (s.runStep step).runSteps steps
    else s.runSteps steps

/-- What a script has written and how it has ended.  A signal leaves no exit code. -/
def State.result (s : State) : Execution :=
  { stdout := Text.decodeLossy s.output
    stderr := Text.decodeLossy s.complaints
    exitCode := match s.ending with
      | some (.exit code) => code
      | some .signal => -1
      | none => s.status }

def runScript (name script : String) (args : List String) : Execution :=
  match readScript script with
  | .ok steps => (State.runSteps { name, args } steps).result
  | .error fault => .failure s!"{name}: 1: {fault.message}\n" 2

/-- The shell that is known by the given path. -/
def shell (path : String) : Program
  | [] => {}
  | ["-c"] => .failure s!"{path}: 0: -c requires an argument\n" 2
  | "-c" :: script :: [] => runScript path script []
  | "-c" :: script :: name :: args => runScript name script args
  | file :: _ => .failure s!"{path}: 0: cannot open {file}: No such file\n" 2

def shellPath : String := "/bin/sh"

/-- A machine with a shell and few other files. -/
def plainMachine : Machine :=
  let dir (entries : List (String × Files.Entry)) : Files.Entry := .dir entries
  { files :=
      { root := dir [("bin", dir [("sh", .file "")]), ("dev", dir [("null", .file "")]),
          ("etc", dir [("hosts", .file ""), ("passwd", .file "")]), ("home", dir []),
          ("tmp", dir []), ("usr", dir [("bin", dir []), ("lib", dir [])]), ("var", dir [])]
        workingDir := [] }
    env := fun name => if name = "PATH" then some "/usr/bin:/bin" else none
    programs := [(shellPath, shell shellPath)] }

end DocAudit.Host.Shell
