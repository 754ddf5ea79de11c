import DocAudit.Digest.Hex
import DocAudit.Digest.Sha256
import DocAudit.Text.Utf8

/-!
# Commands, their fingerprints and their results

A command is a program with its arguments.  Its fingerprint is the SHA-256 digest, in
hexadecimal, of the program's bytes followed for each argument by a zero byte and the argument's
bytes.
-/

namespace DocAudit

/-- A program with its arguments. -/
structure Command where
  program : String
  args : List String := []
  deriving DecidableEq, Repr

/-- The key under which the result of a command is remembered. -/
structure Fingerprint where
  text : String
  deriving DecidableEq, Repr

/-- What a command has written and how it has ended. -/
structure Execution where
  stdout : String := ""
  stderr : String := ""
  exitCode : Int := 0
  deriving DecidableEq, Repr

namespace Execution

def success (stdout : String) : Execution := { stdout }

def failure (stderr : String) (exitCode : Int) : Execution := { stderr, exitCode }

/-- Whether the command ended with exit code zero. -/
def isSuccess (e : Execution) : Bool := e.exitCode = 0

end Execution

namespace Command

/-- The command as one line of text: program and arguments with blanks between them. -/
def display (c : Command) : String := " ".intercalate (c.program :: c.args)

/-- The bytes whose digest is the fingerprint. -/
def hashInput (c : Command) : List UInt8 :=
  Text.utf8 c.program ++ c.args.flatMap fun a => 0 :: Text.utf8 a

def fingerprint (c : Command) : Fingerprint := ⟨Digest.hex (Digest.sha256 c.hashInput)⟩

end Command

/-- The initial part of a text that takes up `n` bytes in UTF-8, or the whole text if it is
shorter.  There is none if the `n`-th byte is inside a character. -/
def takeBytes : Nat → List Char → Option (List Char)
  | 0, _ => some []
  | _, [] => some []
  | n, c :: cs =>
    if c.utf8Size ≤ n then (takeBytes (n - c.utf8Size) cs).map (c :: ·) else none

/-- The number of bytes of a fingerprint that are shown. -/
def Fingerprint.shownBytes : Nat := 12

/-- The initial part of a fingerprint that is shown, unless it would end inside a character. -/
def Fingerprint.short? (f : Fingerprint) : Option String :=
  (takeBytes shownBytes f.text.toList).map String.ofList

end DocAudit
