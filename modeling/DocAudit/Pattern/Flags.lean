import DocAudit.Pattern.Property
import DocAudit.Text.Blank

/-!
# Modes of reading

A pattern is read in modes that `(?flags)` switches.  They decide what its pieces mean, and in
verbose mode white space and comments may stand between any two characters.
-/

namespace DocAudit.Pattern

open DocAudit.Text

/-- Why a text is no pattern. -/
inductive Fault where
  | groupUnclosed
  | groupUnopened
  | groupName
  | lookAround
  | backreference
  | flags
  | nothingToRepeat
  | repetitionCount
  | classUnclosed
  | classRange
  | classItem
  | escape
  | unicodeProperty
  | wordBoundary
  /-- Without Unicode mode the piece could match a part of a character. -/
  | partOfCharacter
  /-- Groups, repetitions and brackets are nested too deep. -/
  | tooDeep
  /-- Written out, the repetitions take too much room. -/
  | tooLarge
  deriving DecidableEq, Repr

def Fault.message : Fault → String
  | .tooLarge => "Compiled regex exceeds size limit of 10485760 bytes."
  | _ => "regex parse error"

/-- The modes that `(?flags)` switches. -/
structure Flags where
  ignoreCase : Bool := false
  multiLine : Bool := false
  dotAll : Bool := false
  swapGreed : Bool := false
  unicode : Bool := true
  crlf : Bool := false
  /-- White space and comments in the pattern mean nothing. -/
  verbose : Bool := false
  deriving DecidableEq, Repr

/-- Drops white space and comments up to the next character that counts. -/
def skipVerbose (inComment : Bool) : List Char → List Char
  | [] => []
  | c :: cs =>
    if inComment then skipVerbose (c ≠ '\n') cs
    else if isBlank c then skipVerbose false cs
    else if c = '#' then skipVerbose true cs
    else c :: cs

namespace Flags

/-- The next character that counts and all after it. -/
def skip (f : Flags) (cs : List Char) : List Char :=
  if f.verbose then skipVerbose false cs else cs

/-- The characters with the property `p` at the start, at most `n` of them, and what follows
them. -/
def scanUpTo (f : Flags) (p : Char → Bool) : Nat → List Char → List Char × List Char
  | n + 1, c :: cs =>
    if p c then
      let (found, rest) := scanUpTo f p n (f.skip cs)
      (c :: found, rest)
    else ([], c :: cs)
  | _, cs => ([], cs)

/-- The characters with the property `p` at the start, and what follows them. -/
def scan (f : Flags) (p : Char → Bool) (cs : List Char) : List Char × List Char :=
  f.scanUpTo p cs.length cs

/-- The set closed under change of case if case is ignored; without Unicode mode only the letters
of ASCII have case. -/
def foldSet (f : Flags) (k : CharSet) : CharSet :=
  if !f.ignoreCase then k else if f.unicode then k.fold else k.foldAscii

/-- The set that a written set stands for, or its complement.  Without Unicode mode it must keep to
ASCII. -/
def finishSet (f : Flags) (negated : Bool) (k : CharSet) : Except Fault CharSet :=
  let k := (f.foldSet k).complIf negated
  if f.unicode || k.isAscii then .ok k else .error .partOfCharacter

/-- The set of `\d`, `\s` or `\w`. -/
def shorthand (f : Flags) (letter : Char) : CharSet :=
  if letter = 'd' then if f.unicode then digitSet else asciiDigitSet
  else if letter = 's' then if f.unicode then blankSet else asciiBlankSet
  else if f.unicode then wordSet else asciiWordSet

end Flags

end DocAudit.Pattern
