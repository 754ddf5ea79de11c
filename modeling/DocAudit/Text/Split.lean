/-!
# Splitting texts

Cutting a text at separators, from either end.
-/

namespace DocAudit.Text

/-- The characters after the last one with property `p`, or all of them if there is none. -/
def afterLast (p : Char → Bool) (cs : List Char) : List Char :=
  (cs.reverse.takeWhile fun c => !p c).reverse

/-- The characters before and after the last `sep`. -/
def splitLast? (sep : Char) (cs : List Char) : Option (List Char × List Char) :=
  let back := cs.reverse
  match back.dropWhile (· ≠ sep) with
  | _ :: before => some (before.reverse, (back.takeWhile (· ≠ sep)).reverse)
  | [] => none

/-- The parts of a text between the separators; `part` is the part under way in reverse. -/
def splitChars (sep : Char) (part : List Char) : List Char → List (List Char)
  | [] => [part.reverse]
  | c :: cs =>
    if c = sep then part.reverse :: splitChars sep [] cs else splitChars sep (c :: part) cs

/-- The parts of a text between the separators. -/
def split (sep : Char) (s : String) : List String := (splitChars sep [] s.toList).map String.ofList

end DocAudit.Text
