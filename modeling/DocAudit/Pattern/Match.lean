import DocAudit.Pattern.Cursor

/-!
# Matching

`ends e ss` gives for each of the states `ss` the states in which a match of `e` that starts there
can end, in order of preference: the first branch before the second, more repetitions before fewer
if the repetition is greedy, fewer before more if it is lazy.  What can be reached from an earlier
state, or in a preferred way, is left out of the later lists, since nothing later can be preferred
to it.  All states are moved at once, so that the work grows with the length of the text and not
with the number of ways through it.

Repetitions without an upper bound go on from each position once.
-/

namespace DocAudit.Pattern

/-- The states that have been reached from several states, one list for each. -/
abbrev Reached := List (List State)

/-- The states without those at a position in `seen`, a set of positions, and the set with the
positions of all of them. -/
def freshStates (seen : Nat) : List State → List State × Nat
  | [] => ([], seen)
  | s :: ss =>
    if seen.testBit s.cursor.left then freshStates seen ss
    else
      let (fresh, seen) := freshStates (seen ||| 1 <<< s.cursor.left) ss
      (s :: fresh, seen)

/-- The lists with the first state of each position only. -/
def distinctFrom (seen : Nat) : Reached → Reached
  | [] => []
  | ss :: rest =>
    let (fresh, seen) := freshStates seen ss
    fresh :: distinctFrom seen rest

/-- The lists with the first state of each position only. -/
def distinct (reached : Reached) : Reached := distinctFrom 0 reached

/-- Puts lists together: as many of `further` for each list as it has elements. -/
def regroup : Reached → Reached → Reached
  | [], _ => []
  | ss :: rest, further =>
    (further.take ss.length).flatten :: regroup rest (further.drop ss.length)

/-- Goes on from what has been reached. -/
def advance (step : List State → Reached) (reached : Reached) : Reached :=
  regroup reached (step reached.flatten)

/-- Goes on `n` times from what has been reached. -/
def exactly (step : List State → Reached) : Nat → Reached → Reached
  | 0, reached => reached
  | n + 1, reached =>
    if reached.all List.isEmpty then reached else exactly step n (advance step reached)

/-- The states after at most `n` rounds. -/
def atMost (step : List State → Reached) (greedy : Bool) : Nat → List State → Reached
  | 0, ss => ss.map ([·])
  | n + 1, ss =>
    if ss.isEmpty then []
    else
      let more := advance (atMost step greedy n) (step ss)
      distinct (ss.zipWith (fun s ts => if greedy then ts ++ [s] else s :: ts) more)

/-- What is left to do in a repetition: to go on from a state, or to end there. -/
inductive Task where
  | visit (s : State)
  | finish (s : State)

/-- Works through tasks, at most `fuel` of them.  States at a position in `seen` are not visited
again.  The result is the states in which the repetition ends, put before `found` in reverse, and
the positions visited. -/
def explore (step : State → List State) (greedy : Bool) :
    (fuel : Nat) → List Task → Nat → List State → List State × Nat
  | 0, _, seen, found => (found.reverse, seen)
  | _ + 1, [], seen, found => (found.reverse, seen)
  | n + 1, .finish s :: tasks, seen, found => explore step greedy n tasks seen (s :: found)
  | n + 1, .visit s :: tasks, seen, found =>
    if seen.testBit s.cursor.left then explore step greedy n tasks seen found
    else
      let seen := seen ||| 1 <<< s.cursor.left
      let next := (step s).map .visit
      if greedy then explore step greedy n (next ++ .finish s :: tasks) seen found
      else explore step greedy n (.finish s :: next ++ tasks) seen found

/-- The states after any number of rounds, each of which takes up some text.  A state is visited at
most once for each position after it, and has at most as many successors. -/
def anyNumber (step : State → List State) (greedy : Bool) (seen : Nat) : List State → Reached
  | [] => []
  | s :: ss =>
    let room := s.cursor.left + 2
    let (found, seen) := explore step greedy (room * room) [.visit s] seen []
    found :: anyNumber step greedy seen ss

/-- The states after `min` to `max` rounds. -/
def rounds (step : List State → Reached) (min : Nat) (max : Option Nat) (greedy : Bool)
    (ss : List State) : Reached :=
  let first := exactly step min (ss.map ([·]))
  match max with
  | some m => advance (atMost step greedy (m - min)) first
  | none => advance (anyNumber (fun s => (step [s]).flatten) greedy 0) first

/-- The last of `n` characters of the set, or `before` if `n` is zero, and what follows them. -/
def passAll? (k : CharSet) : Nat → Option Char → List Char → Option (Option Char × List Char)
  | 0, before, cs => some (before, cs)
  | _ + 1, _, [] => none
  | n + 1, _, c :: cs => if k.contains c then passAll? k n (some c) cs else none

/-- The state after `n` characters of the set. -/
def pass? (k : CharSet) (n : Nat) (s : State) : Option State :=
  (passAll? k n s.cursor.before s.cursor.rest).map fun (before, rest) =>
    { s with cursor := ⟨s.cursor.left - n, before, rest⟩ }

/-- The states after at most `n` characters of the set, the nearest first. -/
def spanFrom (k : CharSet) : Nat → State → List State
  | 0, s => [s]
  | n + 1, s =>
    s :: match s.step? k with
      | some t => spanFrom k n t
      | none => []

/-- The states after `min` to `max` characters of the set. -/
def setRounds (k : CharSet) (min : Nat) (max : Option Nat) (greedy : Bool) (ss : List State) :
    Reached :=
  let first := ss.map fun s => (pass? k min s).toList
  match max with
  | some m =>
    distinct (first.map fun reached =>
      let found := reached.flatMap (spanFrom k (m - min))
      if greedy then found.reverse else found)
  | none => advance (anyNumber (fun s => (s.step? k).toList) greedy 0) first

/-- The states in which matches from the given states can end, one list for each. -/
def ends : Expr → List State → Reached
  | .empty, ss => ss.map ([·])
  | .literal cs, ss => ss.map fun s => (s.read? cs).toList
  | .set k, ss => ss.map fun s => (s.step? k).toList
  | .assert a, ss => ss.map fun s => if a.holds s.cursor then [s] else []
  | .group index e, ss =>
    ss.zipWith (fun s ts => ts.map (·.close index s.cursor)) (ends e ss)
  | .seq a b, ss => advance (ends b) (ends a ss)
  | .alt a b, ss => distinct ((ends a ss).zipWith (· ++ ·) (ends b ss))
  | .repeated (.set k) min max greedy, ss => setRounds k min max greedy ss
  | .repeated (.literal [c]) min max greedy, ss => setRounds (.single c) min max greedy ss
  | .repeated e min max greedy, ss => rounds (ends e) min max greedy ss

/-- The states in which a match from a state can end, in order of preference. -/
def endsFrom (e : Expr) (s : State) : List State := (ends e [s]).flatten

/-- The leftmost, preferred match of the expression in a text. -/
def searchDirect (e : Expr) (text : List Char) : Option State :=
  (ends e (startStates text)).flatten.head?

end DocAudit.Pattern
