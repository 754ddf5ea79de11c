import DocAudit.Pattern.Graph
import DocAudit.Pattern.Match

/-!
# Searching

Plain expressions are matched directly.  Where a repeated part can match the empty text, or goes
round without bound inside of another part that does, the graph of the expression is searched.
-/

namespace DocAudit.Pattern

namespace Expr

/-- Whether some part may be repeated without bound. -/
def isUnbounded : Expr → Bool
  | group _ e => e.isUnbounded
  | seq a b => a.isUnbounded || b.isUnbounded
  | alt a b => a.isUnbounded || b.isUnbounded
  | repeated _ _ none _ => true
  | repeated e _ (some _) _ => e.isUnbounded
  | _ => false

/-- Whether all parts that are repeated take up text, and those that are repeated without bound
have no such parts inside. -/
def isPlain : Expr → Bool
  | group _ e => e.isPlain
  | seq a b => a.isPlain && b.isPlain
  | alt a b => a.isPlain && b.isPlain
  | repeated e _ none _ => e.isPlain && e.isSolid && !e.isUnbounded
  | repeated e _ (some m) _ => e.isPlain && (m ≤ 1 || e.isSolid)
  | _ => true

end Expr

/-- The leftmost, preferred match of the expression in a text. -/
def search (e : Expr) (text : List Char) : Option State :=
  if e.isPlain then searchDirect e text else (Graph.ofExpr e).search text

end DocAudit.Pattern
