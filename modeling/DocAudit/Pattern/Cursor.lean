import DocAudit.Pattern.Expr
import DocAudit.Pattern.Property

/-!
# Positions in a text

A match moves from position to position.  A `Cursor` knows the character before it and the
characters after it, which is all that assertions look at; a `State` also knows the groups that
have been closed on the way.
-/

namespace DocAudit.Pattern

/-- A position in a text: the character before it and the characters after it. -/
structure Cursor where
  /-- The number of characters after the position. -/
  left : Nat
  before : Option Char
  rest : List Char
  deriving DecidableEq, Repr

/-- The text of a group: the first `length` characters of `start`. -/
structure Capture where
  index : Nat
  start : List Char
  length : Nat
  deriving DecidableEq, Repr

/-- A position together with the groups closed so far, the latest first. -/
structure State where
  cursor : Cursor
  groups : List Capture
  deriving DecidableEq, Repr

/-- The positions from the given one on, the first one first. -/
def cursorsFrom (left : Nat) (before : Option Char) : List Char → List Cursor
  | [] => [⟨left, before, []⟩]
  | c :: cs => ⟨left, before, c :: cs⟩ :: cursorsFrom (left - 1) (some c) cs

/-- The states in which a match in a text can start, the first one first. -/
def startStates (text : List Char) : List State :=
  (cursorsFrom text.length none text).map fun p => ⟨p, []⟩

def isWordChar (ascii : Bool) (c : Char) : Bool :=
  if ascii then asciiWordSet.contains c else wordSet.contains c

def Assertion.holds : Assertion → Cursor → Bool
  | .textStart, p => p.before.isNone
  | .textEnd, p => p.rest.isEmpty
  | .lineStart, p => p.before.all (· = '\n')
  | .lineEnd, p => p.rest.head?.all (· = '\n')
  | .lineStartCrlf, p =>
    p.before.all fun c => c = '\n' || (c = '\r' && p.rest.head? != some '\n')
  | .lineEndCrlf, p =>
    p.rest.head?.all fun c => c = '\r' || (c = '\n' && p.before != some '\r')
  | .word edge ascii, p =>
    let b := p.before.any (isWordChar ascii)
    let a := p.rest.head?.any (isWordChar ascii)
    match edge with
    | .boundary => b != a
    | .noBoundary => b == a
    | .start => !b && a
    | .finish => b && !a
    | .startHalf => !b
    | .finishHalf => !a

namespace State

/-- The state after the next character, if it belongs to the set. -/
def step? (s : State) (k : CharSet) : Option State :=
  match s.cursor.rest with
  | c :: cs =>
    if k.contains c then some { s with cursor := ⟨s.cursor.left - 1, some c, cs⟩ } else none
  | [] => none

/-- The state after the given characters, if they come next. -/
def read? (s : State) : List Char → Option State
  | [] => some s
  | c :: cs => (s.step? (.single c)).bind (·.read? cs)

/-- The state after the group `index`, which was entered at `start`, has been closed. -/
def close (s : State) (index : Nat) (start : Cursor) : State :=
  { s with groups := ⟨index, start.rest, start.left - s.cursor.left⟩ :: s.groups }

/-- The text of a group, if the group took part in the match. -/
def group? (s : State) (index : Nat) : Option (List Char) :=
  (s.groups.find? (·.index = index)).map fun g => g.start.take g.length

end State

end DocAudit.Pattern
