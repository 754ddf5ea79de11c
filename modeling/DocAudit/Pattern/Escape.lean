import DocAudit.Pattern.Expr
import DocAudit.Pattern.Flags

/-!
# Escapes

What follows a backslash.  Every reader takes the characters after the piece's first one and gives
the piece with the characters behind it.
-/

namespace DocAudit.Pattern

open DocAudit.Text

/-- What a single character or escape stands for. -/
inductive Piece where
  | literal (c : Char)
  | set (k : CharSet)
  | assertion (a : Assertion)
  deriving DecidableEq, Repr

/-- Characters that mean themselves after a backslash. -/
def isEscapable (c : Char) : Bool :=
  c.toNat < 128 && !c.isAlphanum && c ≠ '<' && c ≠ '>'

/-- The character with the number that hexadecimal digits stand for. -/
def hexChar? (digits : List Char) : Option Char :=
  if digits.isEmpty then none else (hexNumber? digits).bind charOfCode?

/-- Reads the digits after `\x`, `\u` or `\U`, in braces or of a fixed number.  Two digits after
`\x` name a byte where Unicode mode is off. -/
def readHexEscape (f : Flags) (letter : Char) (cs : List Char) : Except Fault (Char × List Char) :=
  match f.skip cs with
  | '\x7b' :: rest =>
    match f.scan (· ≠ '\x7d') (f.skip rest) with
    | (digits, '\x7d' :: after) =>
      match hexChar? digits with
      | some c => .ok (c, after)
      | none => .error .escape
    | _ => .error .escape
  | rest =>
    let count := if letter = 'x' then 2 else if letter = 'u' then 4 else 8
    let (digits, after) := f.scanUpTo (fun _ => true) count rest
    match hexChar? digits with
    | some c =>
      if digits.length < count then .error .escape
      else if letter = 'x' && !f.unicode && c.toNat > 0x7F then .error .partOfCharacter
      else .ok (c, after)
    | none => .error .escape

/-- The characters before the first occurrence of `mark`, and those after it. -/
def splitAtMark (mark : List Char) : List Char → Option (List Char × List Char)
  | [] => none
  | c :: cs =>
    if mark.isPrefixOf (c :: cs) then some ([], (c :: cs).drop mark.length)
    else (splitAtMark mark cs).map fun (a, b) => (c :: a, b)

/-- The set that the text inside the braces after `\p` stands for, and whether its complement is
meant. -/
def propertySet? (text : List Char) : Option (CharSet × Bool) :=
  match splitAtMark ['!', '='] text with
  | some (name, value) => (valuedSet? name value).map (·, true)
  | none =>
    match (splitAtMark [':'] text).or (splitAtMark ['='] text) with
    | some (name, value) => (valuedSet? name value).map (·, false)
    | none => (namedSet? text).map (·, false)

/-- Reads the name after `\p` or `\P`. -/
def readProperty (f : Flags) (negated : Bool) (cs : List Char) :
    Except Fault (CharSet × List Char) := do
  let (name, after) ← match f.skip cs with
    | '\x7b' :: rest =>
      match f.scan (· ≠ '\x7d') (f.skip rest) with
      | (name, '\x7d' :: after) => .ok (name, after)
      | _ => .error .escape
    | c :: rest => if c = '\\' then .error .unicodeProperty else .ok ([c], rest)
    | [] => .error .escape
  match if f.unicode then propertySet? name else none with
  | some (k, other) => .ok (← f.finishSet (negated != other) k, after)
  | none => .error .unicodeProperty

/-- Letters and hyphens, which names of kinds of word edges are made of. -/
def isEdgeNameChar (c : Char) : Bool := c.isAlpha || c = '-'

/-- Reads the name of a kind of word edge in braces after `\b`.  A brace that opens no such name is
left for a repetition count. -/
def readWordEdge (f : Flags) (cs : List Char) : Except Fault (WordEdge × List Char) :=
  match cs with
  | '\x7b' :: rest =>
    let inside := f.skip rest
    if inside.isEmpty then .error .wordBoundary
    else
      match f.scan isEdgeNameChar inside with
      | ([], _) => .ok (.boundary, cs)
      | (name, '\x7d' :: after) =>
        match String.ofList name with
        | "start" => .ok (.start, after)
        | "end" => .ok (.finish, after)
        | "start-half" => .ok (.startHalf, after)
        | "end-half" => .ok (.finishHalf, after)
        | _ => .error .wordBoundary
      | _ => .error .wordBoundary
  | _ => .ok (.boundary, cs)

/-- The control characters with an escape of their own. -/
def controlEscape? (c : Char) : Option Char :=
  if c = 'a' then some '\x07'
  else if c = 'f' then some '\x0c'
  else if c = 't' then some '\t'
  else if c = 'n' then some '\n'
  else if c = 'r' then some '\r'
  else if c = 'v' then some '\x0b'
  else none

def readEscape (f : Flags) : List Char → Except Fault (Piece × List Char)
  | [] => .error .escape
  | c :: cs =>
    let edge (e : WordEdge) : Piece := .assertion (.word e (!f.unicode))
    if c.isDigit then .error .backreference
    else if c = 'x' || c = 'u' || c = 'U' then do
      let (x, rest) ← readHexEscape f c cs
      .ok (.literal x, rest)
    else if c = 'p' || c = 'P' then do
      let (k, rest) ← readProperty f (c = 'P') cs
      .ok (.set k, rest)
    else if c = 'd' || c = 's' || c = 'w' then .ok (.set (f.shorthand c), cs)
    else if c = 'D' || c = 'S' || c = 'W' then
      if f.unicode then .ok (.set (f.shorthand c.toLower).compl, cs) else .error .partOfCharacter
    else if isEscapable c then .ok (.literal c, cs)
    else
      match controlEscape? c with
      | some x => .ok (.literal x, cs)
      | none =>
        if c = 'A' then .ok (.assertion .textStart, cs)
        else if c = 'z' then .ok (.assertion .textEnd, cs)
        else if c = 'b' then do
          let (e, rest) ← readWordEdge f cs
          .ok (edge e, rest)
        else if c = 'B' then .ok (edge .noBoundary, cs)
        else if c = '<' then .ok (edge .start, cs)
        else if c = '>' then .ok (edge .finish, cs)
        else .error .escape

end DocAudit.Pattern
