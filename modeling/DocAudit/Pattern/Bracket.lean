import DocAudit.Pattern.Escape

/-!
# Bracket expressions

A bracket expression stands for one character of a set.  Its members are characters, ranges,
escapes, named sets `[:name:]` and further bracket expressions, and operators divide them into
operands.  Brackets can be nested without bound, so the open ones are kept in a list; each also
counts how deep the brackets inside it are nested.
-/

namespace DocAudit.Pattern

open DocAudit.Text

/-- The operators between the operands of a bracket expression. -/
inductive SetOp where
  | inter
  | diff
  | symmDiff
  deriving DecidableEq, Repr

/-- The set that the operator makes of two sets. -/
def SetOp.apply : SetOp → CharSet → CharSet → CharSet
  | .inter => .inter
  | .diff => .diff
  | .symmDiff => .symmDiff

/-- A part of a bracket expression that has been read: its set and how deep it is nested. -/
structure SetPart where
  set : CharSet
  depth : Nat := 0

/-- An operand of a bracket expression while it is read. -/
structure Operand where
  set : CharSet := .none
  count : Nat := 0
  /-- The greatest depth of a member. -/
  depth : Nat := 0

def Operand.push (o : Operand) (p : SetPart) : Operand :=
  ⟨o.set.union p.set, o.count + 1, max o.depth p.depth⟩

/-- The operand as a part; several members are nested in their union. -/
def Operand.toPart (o : Operand) : SetPart := ⟨o.set, if 1 < o.count then o.depth + 1 else o.depth⟩

/-- An open bracket expression. -/
structure SetLevel where
  negated : Bool
  /-- The left operand and the operator before the current operand. -/
  pending : Option (SetPart × SetOp) := none
  operand : Operand := {}

namespace SetLevel

def push (l : SetLevel) (p : SetPart) : SetLevel := { l with operand := l.operand.push p }

/-- The operands read so far as one part. -/
def value (l : SetLevel) (f : Flags) : SetPart :=
  let right := l.operand.toPart
  match l.pending with
  | some (left, op) =>
    ⟨op.apply (f.foldSet left.set) (f.foldSet right.set), max left.depth right.depth + 1⟩
  | none => right

/-- The level after an operator has ended the current operand. -/
def operator (l : SetLevel) (f : Flags) (op : SetOp) : SetLevel :=
  { l with pending := some (l.value f, op), operand := {} }

/-- The closed bracket expression. -/
def close (l : SetLevel) (f : Flags) : Except Fault SetPart := do
  let inside := l.value f
  .ok ⟨← f.finishSet l.negated inside.set, inside.depth + 1⟩

end SetLevel

/-- Opens a bracket expression: a caret negates it, then hyphens and, as the very first
character, a closing bracket mean themselves. -/
def openSet (f : Flags) (cs : List Char) : Except Fault (SetLevel × List Char) :=
  let (negated, rest) := match f.skip cs with
    | '^' :: rest => (true, f.skip rest)
    | rest => (false, rest)
  let (hyphens, rest) := f.scan (· = '-') rest
  let level := hyphens.foldl (fun (l : SetLevel) c => l.push { set := .single c }) { negated }
  match hyphens, rest with
  | _, [] => .error .classUnclosed
  | [], ']' :: after =>
    match f.skip after with
    | [] => .error .classUnclosed
    | rest => .ok (level.push { set := .single ']' }, rest)
  | _, rest => .ok (level, rest)

/-- Reads a named set `[:name:]`, the bracket already taken; the flag tells whether its complement
is meant. -/
def readBracketSet? (cs : List Char) : Option (CharSet × Bool × List Char) :=
  match cs with
  | ':' :: rest =>
    let (negated, rest) := match rest with
      | '^' :: r => (true, r)
      | r => (false, r)
    match rest.dropWhile (· ≠ ':') with
    | ':' :: ']' :: after =>
      (bracketSet? (String.ofList (rest.takeWhile (· ≠ ':')))).map fun k => (k, negated, after)
    | _ => none
  | _ => none

/-- Reads one member of a bracket expression.  Without Unicode mode the characters are those of
ASCII. -/
def readMember (f : Flags) (cs : List Char) : Except Fault (Piece × List Char) := do
  let (piece, rest) ← match cs with
    | [] => .error .classUnclosed
    | '\\' :: cs => readEscape f cs
    | c :: cs => .ok (.literal c, cs)
  match piece with
  | .literal c => if !f.unicode && c.toNat > 0x7F then .error .classItem else .ok (piece, rest)
  | _ => .ok (piece, rest)

/-- The set of a member that stands alone. -/
def Piece.toSet : Piece → Except Fault CharSet
  | .literal c => .ok (.single c)
  | .set k => .ok k
  | .assertion _ => .error .classItem

/-- The character that decides about a hyphen before `cs`.  In verbose mode it is the first that is
no white space, or, in a comment, the first of the comment; if there is none, the first of all. -/
def afterHyphen? (f : Flags) (cs : List Char) : Option Char :=
  if !f.verbose then cs.head?
  else
    match cs.dropWhile isBlank with
    | '#' :: comment => (comment.dropWhile isBlank).head?.or cs.head?
    | c :: _ => some c
    | [] => cs.head?

/-- Reads a member, or two with a hyphen between them for the range from one to the other. -/
def readRange (f : Flags) (cs : List Char) : Except Fault (CharSet × List Char) := do
  let (first, rest) ← readMember f cs
  match f.skip rest with
  | [] => .error .classUnclosed
  | '-' :: after =>
    if afterHyphen? f after = some ']' || afterHyphen? f after = some '-' then
      .ok (← first.toSet, '-' :: after)
    else
      let (second, rest) ← readMember f (f.skip after)
      match first, second with
      | .literal a, .literal b =>
        if a.toNat ≤ b.toNat then .ok (⟨[(a.toNat, b.toNat)]⟩, rest) else .error .classRange
      | _, _ => .error .classRange
  | rest => .ok (← first.toSet, rest)

/-- Reads a bracket expression whose innermost open level is `level`; `outer` are the levels
around it. -/
def readSet (f : Flags) : Nat → SetLevel → List SetLevel → List Char →
    Except Fault (SetPart × List Char)
  | 0, _, _, _ => .error .classUnclosed
  | n + 1, level, outer, cs =>
    match f.skip cs with
    | [] => .error .classUnclosed
    | '[' :: rest =>
      match readBracketSet? rest with
      | some (k, negated, after) => do
        readSet f n (level.push { set := ← f.finishSet negated k }) outer after
      | none => do
        let (inner, after) ← openSet f rest
        readSet f n inner (level :: outer) after
    | ']' :: rest => do
      let part ← level.close f
      match outer with
      | [] => .ok (part, rest)
      | up :: outer => readSet f n (up.push part) outer rest
    | '&' :: '&' :: rest => readSet f n (level.operator f .inter) outer rest
    | '-' :: '-' :: rest => readSet f n (level.operator f .diff) outer rest
    | '~' :: '~' :: rest => readSet f n (level.operator f .symmDiff) outer rest
    | cs => do
      let (k, rest) ← readRange f cs
      readSet f n (level.push { set := k }) outer rest

/-- Reads a bracket expression, the opening bracket already taken.  Every member takes at least one
character. -/
def readBracket (f : Flags) (cs : List Char) : Except Fault (SetPart × List Char) := do
  let (level, rest) ← openSet f cs
  readSet f (rest.length + 1) level [] rest

end DocAudit.Pattern
