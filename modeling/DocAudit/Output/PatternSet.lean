import DocAudit.Assoc
import DocAudit.Pattern
import DocAudit.Text.Blank
import DocAudit.Text.Count

/-!
# Sets of named patterns

A parser works with a few patterns that are known by their roles.  Questions about a role without
a pattern have the answer "no match".
-/

namespace DocAudit

/-- Patterns by name. -/
structure PatternSet where
  entries : List (String × Pattern) := []
  deriving DecidableEq, Repr

namespace PatternSet

/-- The role of patterns for lines that start a record. -/
def general : String := "general"

/-- The role of patterns whose last group is the message. -/
def message : String := "message"

/-- The role of patterns whose last group is the file. -/
def location : String := "location"

/-- The role of patterns whose last group is the line number. -/
def line : String := "line"

/-- Compiles patterns in order; the first that fails decides.  Of two patterns with one name the
later counts. -/
def compile (texts : List (String × String)) : Except Pattern.Fault PatternSet := do
  let compiled ← texts.mapM fun t => (Pattern.compile t.2).map (t.1, ·)
  .ok ⟨Assoc.ofList compiled⟩

def contains (ps : PatternSet) (key : String) : Bool := Assoc.contains key ps.entries

def isMatch (ps : PatternSet) (text key : String) : Bool :=
  (Assoc.get? key ps.entries).any (·.isMatch text)

/-- The texts of the groups of the named pattern in its first match; none without a match. -/
def captures (ps : PatternSet) (text key : String) : List String :=
  ((Assoc.get? key ps.entries).bind (·.captures? text)).getD []

def lastCapture? (ps : PatternSet) (text key : String) : Option String :=
  (ps.captures text key).getLast?

/-- The text of the last group, white space around it left out, as a count. -/
def lineNumber? (ps : PatternSet) (text key : String) : Option Nat :=
  (ps.lastCapture? text key).bind fun s => Text.readCountChars (Text.trimChars s.toList)

end PatternSet

end DocAudit
