import DocAudit.Output.PatternSet
import DocAudit.Output.Record
import DocAudit.Text.Lines

/-!
# Layouts of validator output

The output of a validator is a sequence of lines.  In the one-line layout each matching line is a
record of its own; in the two-line layout a message line is followed by a line with its place; in
the block layout a record takes up a fixed number of lines.  What does not fit the layout is left
out.
-/

namespace DocAudit.Output

open PatternSet

/-- Whether a line starts a record. -/
def isHeader (ps : PatternSet) (line : String) : Bool := ps.isMatch line general

/-! ## One line for each record -/

def lineRecord (ps : PatternSet) (text : String) : Record :=
  { message := ps.lastCapture? text message
    location := ps.lastCapture? text location
    line := ps.lineNumber? text line }

def oneLine (ps : PatternSet) (text : String) : List Record :=
  ((Text.lines text).filter (isHeader ps)).map (lineRecord ps)

/-! ## A message line and a place line -/

/-- The record of a message line and its place line, which is empty if it is missing. -/
def pairRecord (ps : PatternSet) (first second : String) : Record :=
  { message := ps.lastCapture? first message
    location := ps.lastCapture? second location
    line := some ((ps.lineNumber? second line).getD 0) }

/-- The records of lines in the two-line layout.  A header in second place starts a record of its
own. -/
def pairRecords (ps : PatternSet) : List String → List Record
  | [] => []
  | [first] => if isHeader ps first then [pairRecord ps first ""] else []
  | first :: second :: rest =>
    if isHeader ps first then
      if isHeader ps second then pairRecord ps first "" :: pairRecords ps (second :: rest)
      else pairRecord ps first second :: pairRecords ps rest
    else pairRecords ps (second :: rest)

def twoLine (ps : PatternSet) (text : String) : List Record := pairRecords ps (Text.lines text)

/-! ## Blocks of lines -/

/-- The block layout: each record takes up `length` lines and starts with a header.  `build` makes
a record of the lines of a block or refuses them. -/
structure Block where
  patterns : PatternSet
  length : Nat
  length_pos : 0 < length
  build : List String → Option Record

/-- A block layout with at least one line for each record. -/
def Block.ofLength (patterns : PatternSet) (length : Nat) (build : List String → Option Record) :
    Block :=
  ⟨patterns, max 1 length, Nat.le_max_left 1 length, build⟩

/-- The lines from number `i` up to number `j`, unless that is out of range. -/
def slice? (lines : Array String) (i j : Nat) : Option (Array String) :=
  if i ≤ j ∧ j ≤ lines.size then some (lines.extract i j) else none

/-- The records of the lines from number `i` on, unless a line outside of the text is asked for.  A
block that another header interrupts is dropped and reading goes on at that header; lines that are
too few for a block end the reading. -/
def Block.recordsFrom? (b : Block) (lines : Array String) (i : Nat) : Option (List Record) :=
  if hi : i < lines.size then
    lines[i]?.bind fun first =>
      if isHeader b.patterns first then
        if lines.size < i + b.length then some []
        else
          (slice? lines i (i + b.length)).bind fun block =>
            (slice? block 1 block.size).bind fun body =>
              match body.findIdx? (isHeader b.patterns) with
              | some offset => b.recordsFrom? lines (i + offset + 1)
              | none =>
                (b.recordsFrom? lines (i + b.length)).map ((b.build block.toList).toList ++ ·)
      else b.recordsFrom? lines (i + 1)
  else some []
termination_by lines.size - i
decreasing_by
  · omega
  · have := b.length_pos
    omega
  · omega

/-- The records of a text, none if reading has asked for a line outside of it. -/
def Block.read (b : Block) (text : String) : List Record :=
  (b.recordsFrom? (Text.lines text).toArray 0).getD []

/-- Whether the number of the line after each block is a count.  This is decided by the first
header, because a block that takes up so many lines is never complete. -/
def Block.staysInRange (b : Block) (text : String) : Bool :=
  ((Text.lines text).findIdx? (isHeader b.patterns)).all fun i => i + b.length < Text.countLimit

/-- Reads the block layout, unless a line number is no count or is out of range. -/
def Block.read? (b : Block) (text : String) : Option (List Record) :=
  if b.staysInRange text then b.recordsFrom? (Text.lines text).toArray 0 else none

end DocAudit.Output
