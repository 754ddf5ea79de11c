import DocAudit.Pattern.Cursor
import Std.Data.HashSet

/-!
# Graphs of expressions

In the graph of an expression every node leads to the nodes that may come after it, the preferred
one first, and a match is a way from the start to the node `done`.  A search follows the preferred
ways first and enters no fork twice at the same position: what could be reached from there has
been tried already, or is being tried.

This settles what a repetition means whose rounds can be empty: a round may not lead back to a fork
that has been entered since the last character.
-/

namespace DocAudit.Pattern

inductive Node where
  | done
  | set (k : CharSet) (next : Nat)
  | assert (a : Assertion) (next : Nat)
  | enter (index : Nat) (next : Nat)
  | leave (index : Nat) (next : Nat)
  /-- Two ways to go on, the preferred one first. -/
  | fork (first second : Nat)

/-- A graph under construction, with a node in it. -/
structure Graph where
  nodes : Array Node
  start : Nat

namespace Graph

/-- The graph of the empty expression. -/
def done : Graph := ⟨#[.done], 0⟩

/-- The graph with a node in front. -/
def push (g : Graph) (node : Nat → Node) : Graph := ⟨g.nodes.push (node g.start), g.nodes.size⟩

/-- The graph with a choice between its start and another node in front. -/
def offer (g : Graph) (other : Nat) (greedy : Bool) : Graph :=
  g.push fun here => if greedy then .fork here other else .fork other here

/-- The graph after `f` has been applied `n` times. -/
def iterate (f : Graph → Graph) : Nat → Graph → Graph
  | 0, g => g
  | n + 1, g => iterate f n (f g)

/-- The graph with a loop in front that goes through `body` and back, or on to the start.  Starts
at the node where the two ways part. -/
def loop (body : Graph → Graph) (greedy : Bool) (g : Graph) : Graph × Nat :=
  let parting := g.nodes.size
  let inner := body ⟨g.nodes.push .done, parting⟩
  let node := if greedy then .fork inner.start g.start else .fork g.start inner.start
  (⟨inner.nodes.setIfInBounds parting node, parting⟩, inner.start)

/-- The graph with the given number of rounds of `body` in front.  Rounds beyond the least number
may be left out one after the other, the last first. -/
def rounds (body : Graph → Graph) (solid : Bool) (min : Nat) (max : Option Nat) (greedy : Bool)
    (g : Graph) : Graph :=
  match max with
  | some m =>
    let exit := g.start
    iterate body min (iterate (fun g => (body g).offer exit greedy) (m - min) g)
  | none =>
    let (looped, inner) := loop body greedy g
    match min with
    | 0 =>
      if solid then looped
      else Graph.offer ⟨looped.nodes, inner⟩ g.start greedy
    | n + 1 => iterate body n ⟨looped.nodes, inner⟩

/-- The graph with an expression in front. -/
def prepend : Expr → Graph → Graph
  | .empty, g => g
  | .literal cs, g => cs.foldr (fun c g => g.push (.set (.single c))) g
  | .set k, g => g.push (.set k)
  | .assert a, g => g.push (.assert a)
  | .group index e, g => (prepend e (g.push (.leave index))).push (.enter index)
  | .seq a b, g => prepend a (prepend b g)
  | .alt a b, g =>
    let second := prepend b g
    let first := prepend a ⟨second.nodes, g.start⟩
    first.offer second.start true
  | .repeated e min max greedy, g => Graph.rounds (prepend e) e.isSolid min max greedy g

def ofExpr (e : Expr) : Graph := prepend e done

end Graph

/-- A way through a graph that has not been followed to its end yet. -/
structure Thread where
  node : Nat
  state : State
  /-- The groups that have been entered, the latest first. -/
  entered : List (Nat × Cursor) := []

namespace Graph

/-- The threads that go on from a thread, the preferred one first, or the end of a match. -/
def follow (g : Graph) (t : Thread) : Except State (List Thread) :=
  match g.nodes[t.node]? with
  | none => .ok []
  | some .done => .error t.state
  | some (.set k next) =>
    .ok ((t.state.step? k).toList.map fun s => { t with node := next, state := s })
  | some (.assert a next) => .ok (if a.holds t.state.cursor then [{ t with node := next }] else [])
  | some (.enter index next) =>
    .ok [{ t with node := next, entered := (index, t.state.cursor) :: t.entered }]
  | some (.leave index next) =>
    match t.entered.find? (·.1 = index) with
    | some (_, start) => .ok [{ t with node := next, state := t.state.close index start }]
    | none => .ok []
  | some (.fork first second) => .ok [{ t with node := first }, { t with node := second }]

/-- Follows threads, at most `fuel` of them, until one ends.  A fork that has been entered at a
position is not entered there again; `width` is greater than the number of any position. -/
def run (g : Graph) (width : Nat) :
    (fuel : Nat) → List Thread → Std.HashSet Nat → Option State
  | 0, _, _ => none
  | _ + 1, [], _ => none
  | n + 1, t :: threads, visited =>
    match g.follow t with
    | .error s => some s
    | .ok [first, second] =>
      let place := t.node * width + t.state.cursor.left
      if visited.contains place then g.run width n threads visited
      else g.run width n (first :: second :: threads) (visited.insert place)
    | .ok next => g.run width n (next ++ threads) visited

/-- The leftmost, preferred match in a text.  There are at most two ways from each fork at each
position to the next fork, and each of them has no node twice. -/
def search (g : Graph) (text : List Char) : Option State :=
  let width := text.length + 1
  g.run width ((2 * g.nodes.size + 1) * width * (g.nodes.size + 1) + 1)
    ((startStates text).map fun s => { node := g.start, state := s }) {}

end Graph

end DocAudit.Pattern
