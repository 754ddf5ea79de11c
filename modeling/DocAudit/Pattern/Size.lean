import DocAudit.Pattern.ByteRange
import DocAudit.Pattern.Expr
import Std.Data.HashMap

/-!
# The size of a pattern

A pattern is searched for byte by byte, forwards and backwards.  With its repetitions written out
it is a set of states, and in neither direction may these take more than `sizeLimit` bytes.

Every state takes `stateSize` bytes, `rangeSize` more for each of several byte ranges that it
reads, and `linkSize` more for each of the states that it leads to without reading, where these
can be several.  States that read the rest of a character in the same way are shared, as far as
tables of fixed size remember them.

* `Tally` counts the states.
* `fits` tells whether a pattern keeps to the limit.
* `sizeBound` is a bound that is quick to find; most patterns are far below the limit.
-/

namespace DocAudit.Pattern

/-- The greatest size of a pattern in bytes. -/
def sizeLimit : Nat := 10 * Nat.pow 2 20

def stateSize : Nat := 32

/-- The size of a byte range that a state reads. -/
def rangeSize : Nat := 8

def linkSize : Nat := 4

/-- The states so far: how many there are and how many bytes belong to them besides. -/
structure Tally where
  states : Nat := 0
  extra : Nat := 0

namespace Tally

/-- The states together, unless they take too many bytes. -/
def check (t : Tally) : Option Tally :=
  if t.states * stateSize + t.extra ≤ sizeLimit then some t else none

/-- Adds states that take further bytes. -/
def addWith (t : Tally) (states extra : Nat) : Option Tally :=
  check ⟨t.states + states, t.extra + extra⟩

def add (t : Tally) (states : Nat) : Option Tally := t.addWith states 0

def link (t : Tally) (links : Nat) : Option Tally := t.addWith 0 (links * linkSize)

/-- Does `f` a number of times. -/
def iterate (f : Tally → Option Tally) : Nat → Tally → Option Tally
  | 0, t => some t
  | n + 1, t => (f t).bind (iterate f n)

end Tally

/-! ## Sets -/

/-- A table of fixed size: each place holds the key and the state that were put there last. -/
structure Memo (α : Type) where
  size : Nat
  places : Std.HashMap Nat (α × Nat) := {}

namespace Memo

/-- The place of a sequence of numbers in a table with the given size. -/
def placeOf (size : Nat) (ns : List Nat) : Nat :=
  let hash := ns.foldl (fun (h : UInt64) n => (h ^^^ n.toUInt64) * 1099511628211)
    14695981039346656037
  hash.toNat % size

/-- The state that is remembered for a key. -/
def find? {α : Type} [BEq α] (m : Memo α) (numbers : α → List Nat) (key : α) : Option Nat :=
  match m.places[placeOf m.size (numbers key)]? with
  | some (k, state) => if k == key then some state else none
  | none => none

/-- Remembers the state for a key. -/
def insert {α : Type} (m : Memo α) (numbers : α → List Nat) (key : α) (state : Nat) : Memo α :=
  { m with places := m.places.insert (placeOf m.size (numbers key)) (key, state) }

end Memo

/-- What a state reads: byte ranges with the states that they lead to. -/
abbrev Step := List (Range × Nat)

def stepNumbers (step : Step) : List Nat := step.flatMap fun s => [s.1.1, s.1.2, s.2]

/-- A state whose last range may get further forms. -/
structure Unfinished where
  /-- The finished ranges, the last first. -/
  done : Step := []
  last : Option Range := none

/-- The state after its last range has been led to `next`. -/
def Unfinished.finish (u : Unfinished) (next : Nat) : Unfinished :=
  match u.last with
  | some r => ⟨(r, next) :: u.done, none⟩
  | none => u

/-- The states for a set while the forms of its characters are added in order. -/
structure Forming where
  tally : Tally
  memo : Memo Step := { size := 10000 }
  /-- The unfinished states for the start of the last form, the innermost first. -/
  unfinished : List Unfinished := [{}]

namespace Forming

/-- Finishes a state, or finds an equal one. -/
def settle (f : Forming) (u : Unfinished) : Option (Forming × Nat) :=
  let step := u.done.reverse
  match f.memo.find? stepNumbers step with
  | some state => some (f, state)
  | none => do
    let state := f.tally.states
    let tally ← f.tally.addWith 1 (rangeSize * step.length)
    some ({ f with tally, memo := f.memo.insert stepNumbers step state }, state)

/-- Finishes the innermost states down to `keep` open ones; the last range of the innermost
state leads to `next`. -/
def closeTo (f : Forming) (keep next : Nat) : List Unfinished → Option Forming
  | [] => some { f with unfinished := [] }
  | u :: us =>
    if us.length < keep then some { f with unfinished := u.finish next :: us }
    else do
      let (f, state) ← f.settle (u.finish next)
      f.closeTo keep state us

/-- The number of ranges of a form that the open states, the outermost first, start with. -/
def shared : List Unfinished → List Range → Nat
  | u :: us, r :: rs => if u.last = some r then shared us rs + 1 else 0
  | _, _ => 0

/-- Adds a form; `target` is the state behind it. -/
def push (target : Nat) (f : Forming) (form : List Range) : Option Forming := do
  let n := shared f.unfinished.reverse form
  let f ← f.closeTo (n + 1) target f.unfinished
  match f.unfinished, form.drop n with
  | u :: us, r :: rs =>
    let further := rs.map fun r => ({ last := some r } : Unfinished)
    some { f with unfinished := further.reverse ++ { u with last := some r } :: us }
  | _, _ => some f

end Forming

/-- Adds the states that read a character of a set forwards. -/
def Tally.setForwards (t : Tally) (k : CharSet) : Option Tally := do
  let target := t.states
  let t ← t.add 1
  let f ← (k.ranges.flatMap byteForms).foldlM (Forming.push target) { tally := t }
  let f ← f.closeTo 0 target f.unfinished
  some f.tally

/-- Adds the states that read the bytes of a form backwards, from the state `next` on. -/
def readBackwards (t : Tally) (memo : Memo (Nat × Range)) (next : Nat) :
    List Range → Option (Tally × Memo (Nat × Range))
  | [] => (t.link 1).map (·, memo)
  | r :: rs =>
    let numbers (key : Nat × Range) : List Nat := [key.1, key.2.1, key.2.2]
    match memo.find? numbers (next, r) with
    | some state => readBackwards t memo state rs
    | none => do
      readBackwards (← t.add 1) (memo.insert numbers (next, r) t.states) t.states rs

/-- Adds the states that read a character of a set backwards. -/
def Tally.setBackwards (t : Tally) (k : CharSet) : Option Tally := do
  let target := t.states + 1
  let t ← t.add 2
  let (t, _) ← (k.ranges.flatMap byteForms).foldlM
    (fun (t, memo) form => readBackwards t memo target form) (t, { size := 1000 })
  some t

def Tally.set (t : Tally) (backwards : Bool) (k : CharSet) : Option Tally :=
  if k.isAscii then t.addWith 2 (rangeSize * k.ranges.length)
  else if backwards then t.setBackwards k
  else t.setForwards k

/-! ## Literals as branches -/

/-- The number of bytes of literals. -/
def literalBytes (cs : List Char) : List Nat := cs.flatMap fun c => codeBytes c.toNat

/-- The words of all branches, if all are literals. -/
def wordsOf? : List Expr → Option (List (List Nat))
  | [] => some []
  | .literal cs :: es => (wordsOf? es).map (literalBytes cs :: ·)
  | _ => none

/-- Words with the same first byte, without it, in order. -/
abbrev Bundle := List (Nat × List (List Nat))

/-- The bundles with a further word. -/
def Bundle.push (b : Nat) (word : List Nat) : Bundle → Bundle
  | [] => [(b, [word])]
  | (c, words) :: rest =>
    if b = c then (c, words ++ [word]) :: rest else (c, words) :: Bundle.push b word rest

/-- A state of the tree of words: bundles that are divided where a word ends, the last first. -/
structure Knot where
  chunks : List Bundle := [[]]

/-- The state with a further word. -/
def Knot.push (k : Knot) : List Nat → Knot
  | b :: word =>
    match k.chunks with
    | chunk :: rest => ⟨chunk.push b word :: rest⟩
    | [] => ⟨[[(b, [word])]]⟩
  | [] =>
    match k.chunks with
    | [[], []] => k
    | chunks => ⟨[] :: chunks⟩

/-- Adds the states of the tree of words; words have at most `fuel` bytes.  Where only ends of words
are left no state is needed. -/
def Tally.words (t : Tally) : (fuel : Nat) → List (List Nat) → Option Tally
  | 0, _ => some t
  | n + 1, ws => do
    let knot := ws.foldl Knot.push {}
    let chunks := knot.chunks.filter (!·.isEmpty)
    if chunks.isEmpty then some t
    else
      let t ← chunks.foldlM
        (fun t chunk => do
          let t ← chunk.foldlM (fun t bundle => t.words n bundle.2) t
          t.addWith 1 (if chunk.length = 1 then 0 else rangeSize * chunk.length)) t
      t.addWith 1 (linkSize * (chunks.length + (knot.chunks.length - 1)))

/-! ## Expressions -/

/-- Whether the states of an expression end in one that leads to several. -/
def endsOpen (backwards : Bool) : Expr → Bool
  | .group _ e => backwards && endsOpen backwards e
  | .seq a b => if backwards then endsOpen backwards a else endsOpen backwards b
  | .repeated e 0 none _ => e.isSolid
  | .repeated _ (_ + 1) none _ => true
  | .repeated e min (some max) _ => min = max && endsOpen backwards e
  | _ => false

/-- Links the end of an expression with what follows it. -/
def Tally.linkEnd (t : Tally) (backwards : Bool) (e : Expr) : Option Tally :=
  t.link (if endsOpen backwards e then 1 else 0)

/-- Where an expression stands in an alternative. -/
inductive Place where
  | alone
  | first
  | second
  | later

/-- Links a branch with its alternative.  The states where the branches part and meet come after
the second branch. -/
def Tally.join (t : Tally) (backwards : Bool) (place : Place) (e : Expr) : Option Tally := do
  match place with
  | .alone => some t
  | .second => (← (← t.add 2).link 1).linkEnd backwards e
  | _ => (← t.link 1).linkEnd backwards e

/-- Adds the rounds of a repetition; `body` adds those of one round, `e`. -/
def Tally.rounds (t : Tally) (body : Tally → Option Tally) (backwards : Bool) (e : Expr)
    (min : Nat) (max : Option Nat) : Option Tally :=
  let next (t : Tally) : Option Tally := do (← body t).linkEnd backwards e
  match min, max with
  | 0, some 1 => do (← next (← t.add 1)).addWith 1 (2 * linkSize)
  | 0, none => do
    if e.isSolid then (← next (← t.add 1)).link 1
    else (← next t).addWith 3 (4 * linkSize)
  | n + 1, none => do (← next (← Tally.iterate next n t)).addWith 1 linkSize
  | min, some max =>
    if min = max then do body (← Tally.iterate next (min - 1) t)
    else do
      let t ← if min = 0 then t.add 1 else Tally.iterate next min t
      Tally.iterate (fun t => do next (← t.addWith 1 (2 * linkSize))) (max - min) (← t.add 1)

/-- Adds the states of an expression at a place of an alternative. -/
def Tally.expr (backwards : Bool) : Place → Expr → Tally → Option Tally
  | place, .alt a b, t => do
    match place with
    | .second => Tally.expr backwards .later b (← Tally.expr backwards .second a t)
    | .later => Tally.expr backwards .later b (← Tally.expr backwards .later a t)
    | _ =>
      match wordsOf? (Expr.alt a b).branches with
      | some words =>
        let words := if backwards then words.map List.reverse else words
        Tally.words (← t.add 1) (words.foldl (fun n w => max n w.length) 0 + 1) words
      | none => Tally.expr backwards .second b (← Tally.expr backwards .first a t)
  | place, .empty, t => do (← t.add 1).join backwards place .empty
  | place, .literal cs, t => do
    (← t.add (literalBytes cs).length).join backwards place (.literal cs)
  | place, .set k, t => do (← t.set backwards k).join backwards place (.set k)
  | place, .assert a, t => do (← t.add 1).join backwards place (.assert a)
  | place, .group index e, t => do
    let t ← if backwards then Tally.expr backwards .alone e t
      else (← (← Tally.expr backwards .alone e (← t.add 1)).add 1).linkEnd backwards e
    t.join backwards place (.group index e)
  | place, .seq a b, t => do
    let t ← if backwards then
        Tally.expr backwards .alone a
          (← (← Tally.expr backwards .alone b t).linkEnd backwards b)
      else
        Tally.expr backwards .alone b
          (← (← Tally.expr backwards .alone a t).linkEnd backwards a)
    t.join backwards place (.seq a b)
  | place, .repeated e min max greedy, t => do
    let t ← t.rounds (Tally.expr backwards .alone e) backwards e min max
    t.join backwards place (.repeated e min max greedy)

/-- Whether every match starts at the start of the text. -/
def startsAtStart : Expr → Bool
  | .assert a => a = .textStart
  | .group _ e => startsAtStart e
  | .seq a b => startsAtStart a || (a.isVoid && startsAtStart b)
  | .alt a b => startsAtStart a && startsAtStart b
  | .repeated e min _ _ => 0 < min && startsAtStart e
  | _ => false

/-- Whether every match ends at the end of the text. -/
def endsAtEnd : Expr → Bool
  | .assert a => a = .textEnd
  | .group _ e => endsAtEnd e
  | .seq a b => endsAtEnd b || (b.isVoid && endsAtEnd a)
  | .alt a b => endsAtEnd a && endsAtEnd b
  | .repeated e min _ _ => 0 < min && endsAtEnd e
  | _ => false

/-- Whether a pattern keeps to the limit in one direction.  States to skip the text before a match
come first, unless matches are bound to the end of the text; forwards the whole match counts as a
group. -/
def fitsIn (backwards : Bool) (e : Expr) : Bool :=
  let bound := if backwards then endsAtEnd e else startsAtStart e
  Option.isSome do
    let t ← if bound then Tally.add {} 1 else Tally.addWith {} 3 (rangeSize + 2 * linkSize)
    let t ← if backwards then (← Tally.expr backwards .alone e t).linkEnd backwards e
      else (← (← Tally.expr backwards .alone e (← t.add 1)).linkEnd backwards e).add 1
    t.add 1

/-- Whether a pattern keeps to the limit. -/
def fits (e : Expr) : Bool := fitsIn false e && fitsIn true e

/-! ## A quick bound -/

/-- A bound for the states of a set in bytes.  A range has at most 21 forms of at most four
bytes. -/
def setBound (k : CharSet) : Nat :=
  k.ranges.foldl (fun n r => n + if r.2 < 0x80 then 64 else 4096) 64

/-- The number of rounds that a repetition is written out in. -/
def roundBound (min : Nat) : Option Nat → Nat
  | some m => m
  | none => min + 1

/-- A bound for the states of an expression in bytes. -/
def sizeBound : Expr → Nat
  | .empty => 64
  | .literal cs => 512 * cs.length + 64
  | .set k => setBound k
  | .assert _ => 64
  | .group _ e => sizeBound e + 128
  | .seq a b => sizeBound a + sizeBound b + 64
  | .alt a b => sizeBound a + sizeBound b + 128
  | .repeated e min max _ => roundBound min max * (sizeBound e + 64) + 256

/-- Whether a pattern keeps to the limit.  Only if the bound is too high the states are counted. -/
def keepsToLimit (e : Expr) : Bool := sizeBound e + 512 ≤ sizeLimit || fits e

end DocAudit.Pattern
