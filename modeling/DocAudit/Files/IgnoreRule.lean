import DocAudit.Files.Wildcard
import DocAudit.Path
import DocAudit.Text.Blank
import DocAudit.Text.Lines

/-!
# Ignore rules

An ignore file has one rule a line.  A rule is a wildcard pattern; an exclamation mark before it
turns the rule round, a slash at its end restricts it to directories, and a slash anywhere else
ties it to the directory of the file.  The last rule that matches decides.

* `IgnoreRule.ofLine` reads a line.
* `RuleSet.verdict?` is the decision of the rules of a directory on a path.
-/

namespace DocAudit.Files

/-- What a rule says about a path. -/
inductive Verdict where
  | ignore
  | keep
  deriving DecidableEq, Repr

def Verdict.reverse : Verdict → Verdict
  | .ignore => .keep
  | .keep => .ignore

structure IgnoreRule where
  pattern : Wildcard
  verdict : Verdict
  dirsOnly : Bool
  deriving DecidableEq, Repr

namespace IgnoreRule

/-- The pattern and the reason why it cannot be read. -/
structure Error where
  pattern : String
  fault : Wildcard.Fault
  deriving DecidableEq, Repr

def Error.message (e : Error) : String := s!"error parsing glob '{e.pattern}': {e.fault.message}"

/-- The line without blanks at its end, unless the last one is escaped. -/
def trimEnd (cs : List Char) : List Char :=
  match cs.reverse with
  | ' ' :: '\\' :: _ => cs
  | back => (back.dropWhile Text.isBlank).reverse

/-- The marks before the pattern of a rule: its verdict, whether it is tied to the directory, and
the rest of the line. -/
def readMarks (cs : List Char) : Verdict × Bool × List Char :=
  match cs with
  | '\\' :: '!' :: _ => (.ignore, false, cs.tail)
  | '\\' :: '#' :: _ => (.ignore, false, cs.tail)
  | '!' :: '/' :: rest => (.keep, true, rest)
  | '!' :: rest => (.keep, false, rest)
  | '/' :: rest => (.ignore, true, rest)
  | _ => (.ignore, false, cs)

/-- The pattern without the slash at its end, if there is one. -/
def cutSlash (cs : List Char) : Bool × List Char :=
  match cs.reverse with
  | '/' :: '\\' :: back => (true, back.reverse)
  | '/' :: back => (true, back.reverse)
  | _ => (false, cs)

/-- Whether the pattern starts with two stars as a component. -/
def startsWithStars (cs : List Char) : Bool := "**/".toList.isPrefixOf cs || cs = "**".toList

/-- The pattern for paths relative to the directory.  A pattern without slash may match in any
directory, and two stars at the end do not match the directory itself. -/
def widen (anchored : Bool) (cs : List Char) : List Char :=
  let free := !anchored && !cs.contains '/' && !startsWithStars cs
  let cs := if free then "**/".toList ++ cs else cs
  if "**/".toList.isPrefixOf cs.reverse then cs ++ "/*".toList else cs

/-- Reads a line; comments and blank lines hold no rule. -/
def ofLine (lenient : Bool) (line : String) : Except Error (Option IgnoreRule) :=
  let cs := trimEnd line.toList
  if line.toList.head? = some '#' || cs.isEmpty then .ok none
  else
    let (verdict, anchored, body) := readMarks cs
    let (dirsOnly, body) := cutSlash body
    match Wildcard.compile lenient (String.ofList (widen anchored body)) with
    | .ok pattern => .ok (some { pattern, verdict, dirsOnly })
    | .error fault => .error ⟨String.ofList cs, fault⟩

end IgnoreRule

/-- The rules of a directory. -/
structure RuleSet where
  /-- The path of the directory, without a leading `./`. -/
  root : String
  rules : List IgnoreRule := []
  deriving DecidableEq, Repr

namespace RuleSet

/-- The text without a part at its start, if it has that part. -/
def dropStart? (start text : String) : Option String :=
  if start.toList.isPrefixOf text.toList then some (String.ofList (text.toList.drop start.length))
  else none

/-- The text without a part at its start. -/
def dropStart (start text : String) : String := (dropStart? start text).getD text

/-- The path relative to the directory of the rules. -/
def relative (s : RuleSet) (path : String) : String :=
  let path := dropStart "./" path
  if Path.isHere s.root || !path.toList.contains '/' then path
  else
    match dropStart? s.root path with
    | some rest => dropStart "/" rest
    | none => path

/-- What the rules say about a path; the last rule that matches decides. -/
def verdict? (s : RuleSet) (path : String) (isDir : Bool) : Option Verdict :=
  if s.rules.isEmpty then none
  else
    let path := s.relative path
    (s.rules.reverse.find? fun r =>
      (!r.dirsOnly || isDir) && r.pattern.isMatch path).map (·.verdict)

def ofRules (dir : String) (rules : List IgnoreRule) : RuleSet := ⟨dropStart "./" dir, rules⟩

/-- The lines of an ignore file, without the mark that some editors put before the first one. -/
def fileLines (content : String) : List String :=
  match Text.lines content with
  | first :: rest =>
    String.ofList (first.toList.dropWhile (· = Char.ofNat 0xFEFF)) :: rest
  | [] => []

/-- The descriptions of the errors in an ignore file, with the number of the line. -/
def faultsOf (file : String) (lineNumber : Nat) : List String → List String
  | [] => []
  | line :: lines =>
    match IgnoreRule.ofLine true line with
    | .ok _ => faultsOf file (lineNumber + 1) lines
    | .error e => s!"{file}: line {lineNumber}: {e.message}" :: faultsOf file (lineNumber + 1) lines

/-- The rules of an ignore file and the descriptions of its errors. -/
def ofFile (dir file content : String) : RuleSet × List String :=
  let lines := fileLines content
  let rules := lines.filterMap fun line =>
    match IgnoreRule.ofLine true line with
    | .ok rule => rule
    | .error _ => none
  (ofRules dir rules, faultsOf file 1 lines)

end RuleSet

end DocAudit.Files
