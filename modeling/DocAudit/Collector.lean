/-!
# Collected lines

In-process validators write lines into a collector; together they make up the output that is
parsed afterwards.
-/

namespace DocAudit

/-- Lines in the order in which they were written. -/
structure Collector where
  lines : List String := []
  deriving DecidableEq, Repr

namespace Collector

def puts (c : Collector) (line : String) : Collector := ⟨c.lines ++ [line]⟩

def size (c : Collector) : Nat := c.lines.length

def isEmpty (c : Collector) : Bool := c.lines.isEmpty

/-- Takes back all lines after the first `n`. -/
def truncate (c : Collector) (n : Nat) : Collector := ⟨c.lines.take n⟩

/-- The lines as one text, each with a line feed behind it. -/
def text (c : Collector) : String := String.ofList (c.lines.flatMap fun l => l.toList ++ ['\n'])

end Collector

end DocAudit
