import DocAudit.Pattern.Reader
import DocAudit.Pattern.Search
import DocAudit.Pattern.Size

/-!
# Patterns

A pattern is a regular expression that has been read and found not too large.

* `Pattern.compile` reads a pattern.
* `Pattern.isMatch` and `Pattern.captures?` search for it in a text.
-/

namespace DocAudit

/-- A regular expression ready for searching. -/
structure Pattern where
  expr : Pattern.Expr
  deriving DecidableEq, Repr

namespace Pattern

/-- Reads a pattern.  Patterns whose repetitions, written out, take too much room are refused. -/
def compile (text : String) : Except Fault Pattern := do
  let e ← readExpr text.toList
  if keepsToLimit e then .ok ⟨e⟩ else .error .tooLarge

/-- Whether the pattern matches somewhere in the text. -/
def isMatch (p : Pattern) (text : String) : Bool := (search p.expr text.toList).isSome

/-- The texts of the groups of the leftmost match, from the first group on.  A group that took no
part in the match has the empty text. -/
def captures? (p : Pattern) (text : String) : Option (List String) :=
  (search p.expr text.toList).map fun s =>
    (List.range p.expr.groupCount).map fun i => String.ofList ((s.group? (i + 1)).getD [])

end Pattern

end DocAudit
