import DocAudit.Pattern.CharSet

/-!
# Regular expressions

`Expr` is the abstract form of a pattern.  The constructors keep expressions in a simple form:
neighbouring literals are one literal, the parts of a sequence are no sequences and the branches
of an alternative no alternatives, one of several characters is a set, and alternatives that start
alike share their start.

* `ofSet`, `ofSeq`, `ofAlts` and `times` build expressions in this form.
* `isVoid` and `leastLength?` bound the length of matches.
-/

namespace DocAudit.Pattern

/-- The edges of words that can be asserted. -/
inductive WordEdge where
  | boundary
  | noBoundary
  | start
  | finish
  | startHalf
  | finishHalf
  deriving DecidableEq, Repr

/-- Conditions on a position that take up no text. -/
inductive Assertion where
  | textStart
  | textEnd
  /-- After a line feed or at the start of the text. -/
  | lineStart
  /-- Before a line feed or at the end of the text. -/
  | lineEnd
  /-- As `lineStart`, with a carriage return as a line end too, but not inside `\r\n`. -/
  | lineStartCrlf
  /-- As `lineEnd`, with a carriage return as a line end too, but not inside `\r\n`. -/
  | lineEndCrlf
  /-- An edge of a word; the characters of words are those of ASCII or of all scripts. -/
  | word (edge : WordEdge) (ascii : Bool)
  deriving DecidableEq, Repr

inductive Expr where
  | empty
  /-- The characters one after the other. -/
  | literal (cs : List Char)
  /-- One character of the set. -/
  | set (k : CharSet)
  | assert (a : Assertion)
  /-- A capturing group with its number. -/
  | group (index : Nat) (e : Expr)
  | seq (a b : Expr)
  | alt (a b : Expr)
  /-- From `min` to `max` times `e`, as many or as few as possible. -/
  | repeated (e : Expr) (min : Nat) (max : Option Nat) (greedy : Bool)
  deriving DecidableEq, Repr

namespace Expr

/-! ## Lengths -/

/-- Whether the expression can match the empty text only. -/
def isVoid : Expr → Bool
  | empty => true
  | literal cs => cs.isEmpty
  | set _ => false
  | assert _ => true
  | group _ e => e.isVoid
  | seq a b => a.isVoid && b.isVoid
  | alt a b => a.isVoid && b.isVoid
  | repeated e _ _ _ => e.isVoid

/-- A lower bound for the number of characters in a match; none if a part of the expression that
a match may go through matches nothing at all. -/
def leastLength? : Expr → Option Nat
  | empty => some 0
  | literal cs => some cs.length
  | set k => if k.ranges.isEmpty then none else some 1
  | assert _ => some 0
  | group _ e => e.leastLength?
  | seq a b => do some ((← a.leastLength?) + (← b.leastLength?))
  | alt a b => do some (Nat.min (← a.leastLength?) (← b.leastLength?))
  | repeated e min _ _ => e.leastLength?.map (min * ·)

/-- Whether every match takes up some text. -/
def isSolid (e : Expr) : Bool := e.leastLength?.any (0 < ·)

/-- The greatest number of a group in the expression, zero if there is none. -/
def groupCount : Expr → Nat
  | group n e => max n e.groupCount
  | seq a b => max a.groupCount b.groupCount
  | alt a b => max a.groupCount b.groupCount
  | repeated e _ _ _ => e.groupCount
  | _ => 0

/-! ## Building -/

/-- The expression for one character of a set. -/
def ofSet (k : CharSet) : Expr :=
  match k.only? with
  | some c => literal [c]
  | none => set k

def parts : Expr → List Expr
  | empty => []
  | seq a b => a.parts ++ b.parts
  | e => [e]

def branches : Expr → List Expr
  | alt a b => a.branches ++ b.branches
  | e => [e]

/-- Puts a part in front of others; two literals become one. -/
def joinPart (e : Expr) (rest : List Expr) : List Expr :=
  match e, rest with
  | literal cs, literal ds :: rest => literal (cs ++ ds) :: rest
  | e, rest => e :: rest

/-- The expressions one after the other, as they are. -/
def chain : List Expr → Expr
  | [] => empty
  | [e] => e
  | e :: es => seq e (chain es)

/-- The expressions one after the other. -/
def ofSeq (es : List Expr) : Expr := chain ((es.flatMap parts).foldr joinPart [])

/-- One of the expressions, as they are. -/
def choice : List Expr → Expr
  | [] => set .none
  | [e] => e
  | e :: es => alt e (choice es)

/-- The characters of literals of one character each. -/
def singleChars? : List Expr → Option (List Char)
  | [] => some []
  | literal [c] :: es => (singleChars? es).map (c :: ·)
  | _ => none

def unionOfSets? : List Expr → Option CharSet
  | [] => some .none
  | set k :: es => (unionOfSets? es).map k.union
  | _ => none

/-- One of the branches, as one set if each is one character. -/
def ofBranches (es : List Expr) : Expr :=
  match es with
  | [e] => e
  | _ =>
    match singleChars? es with
    | some cs => ofSet (.ofChars cs)
    | none =>
      match unionOfSets? es with
      | some k => ofSet k
      | none => choice es

/-- The number of parts that two sequences have in common at their start. -/
def commonStart : List Expr → List Expr → Nat
  | a :: as, b :: bs => if a = b then commonStart as bs + 1 else 0
  | _, _ => 0

def isSeq : Expr → Bool
  | seq _ _ => true
  | _ => false

/-- The number of parts that all branches have in common at their start.  Only sequences have. -/
def sharedStart : List Expr → Nat
  | [] => 0
  | e :: es =>
    if (e :: es).all isSeq then
      es.foldl (fun n f => min n (commonStart e.parts f.parts)) e.parts.length
    else 0

/-- The first of the expressions that matches. -/
def ofAlts (es : List Expr) : Expr :=
  let bs := es.flatMap branches
  match bs with
  | e :: _ :: _ =>
    match sharedStart bs with
    | 0 => ofBranches bs
    | n =>
      let ends := bs.map fun b => ofSeq (b.parts.drop n)
      ofSeq (e.parts.take n ++ [ofBranches (ends.flatMap branches)])
  | _ => choice bs

/-- Repetition of an expression.  What matches the empty text only need not be tried twice, and
nothing is left of zero times. -/
def times (e : Expr) (min : Nat) (max : Option Nat) (greedy : Bool) : Expr :=
  let (min, max) := if e.isVoid then (Nat.min min 1, some (Nat.min (max.getD 1) 1)) else (min, max)
  if min = 0 && max = some 0 then empty
  else if min = 1 && max = some 1 then e
  else repeated e min max greedy

end Expr

end DocAudit.Pattern
