/-!
# Lines of a text

A line ends at a line feed, which is not part of it.  One carriage return right before the line
feed belongs to the line end too; a last line without line feed keeps its carriage return.  The
empty text has no lines, and a line feed at the very end starts no further line.
-/

namespace DocAudit.Text

/-- A finished line given in reverse, without the carriage return of its line end. -/
def closeLine : List Char → List Char
  | '\r' :: cs => cs.reverse
  | cs => cs.reverse

/-- The lines of `cs` when the characters `seen` (in reverse) already stand on the first one. -/
def linesFrom (seen : List Char) : List Char → List (List Char)
  | [] => if seen.isEmpty then [] else [seen.reverse]
  | c :: cs => if c = '\n' then closeLine seen :: linesFrom [] cs else linesFrom (c :: seen) cs

def lines (s : String) : List String := (linesFrom [] s.toList).map String.ofList

end DocAudit.Text
