import DocAudit.Pattern.Bracket
import DocAudit.Text.Count
import DocAudit.Unicode.Letter

/-!
# Reading patterns

`readExpr` reads the text of a pattern.  The reader walks over the text once; `Reading` holds the
alternatives and items of the innermost open group and, below them, the groups around it.  Every
item knows how deep its parts are nested, since there is a limit to that.
-/

namespace DocAudit.Pattern

open DocAudit.Text DocAudit.Unicode

/-- An expression that has been read, and how deep its parts are nested. -/
structure Item where
  expr : Expr
  depth : Nat := 0
  /-- Whether the item only switches modes, so that it cannot be repeated. -/
  isSwitch : Bool := false

/-- Several items put together count as one level of nesting. -/
def nestedDepth (items : List Item) : Nat :=
  let depth := items.foldl (fun d i => max d i.depth) 0
  if 1 < items.length then depth + 1 else depth

/-- A group that is open while something inside it is read. -/
structure OpenGroup where
  /-- The group's number, if it captures. -/
  index : Option Nat
  /-- The modes outside the group. -/
  flags : Flags
  /-- The alternatives before the current one outside the group, the last first. -/
  alts : List Item
  /-- The items before the group, the last first. -/
  items : List Item

structure Reading where
  flags : Flags := {}
  alts : List Item := []
  items : List Item := []
  outer : List OpenGroup := []
  /-- The number of capturing groups opened so far. -/
  groups : Nat := 0
  names : List (List Char) := []

namespace Reading

/-- The reader after one more item. -/
def push (r : Reading) (item : Item) : Reading := { r with items := item :: r.items }

/-- The items of the current alternative as one item. -/
def sequence (r : Reading) : Item :=
  { expr := .ofSeq (r.items.reverse.map (·.expr)), depth := nestedDepth r.items }

/-- All alternatives of the current group as one item. -/
def body (r : Reading) : Item :=
  let alts := r.sequence :: r.alts
  { expr := .ofAlts (alts.reverse.map (·.expr)), depth := nestedDepth alts }

/-- The expression for one literal character in the current mode. -/
def literal (r : Reading) (c : Char) : Expr :=
  if !r.flags.ignoreCase then .literal [c]
  else if r.flags.unicode then .ofSet (.ofChars (foldClass c))
  else .ofSet (CharSet.single c).foldAscii

end Reading

/-! ## Repetitions -/

/-- Repetition counts are less than this. -/
def countLimit : Nat := Nat.pow 2 32

/-- Reads a decimal number with blanks around it; `none` if there are no digits or too many. -/
def readNumber (f : Flags) (cs : List Char) : Option Nat × List Char :=
  let (digits, rest) := f.scan Char.isDigit (cs.dropWhile isBlank)
  let number := if digits.isEmpty then none else (readDigits 0 digits).filter (· < countLimit)
  (number, (f.scan isBlank rest).2)

/-- Reads the bounds of a counted repetition, the opening brace already taken. -/
def readCounts (f : Flags) (cs : List Char) :
    Except Fault ((Nat × Option Nat) × List Char) :=
  match readNumber f (f.skip cs) with
  | (some n, '\x7d' :: after) => .ok ((n, some n), f.skip after)
  | (some n, ',' :: rest) =>
    match f.skip rest with
    | '\x7d' :: after => .ok ((n, none), f.skip after)
    | rest =>
      match readNumber f rest with
      | (some m, '\x7d' :: after) =>
        if n ≤ m then .ok ((n, some m), f.skip after) else .error .repetitionCount
      | _ => .error .repetitionCount
  | _ => .error .repetitionCount

/-- Repeats the last item.  A question mark behind the operator makes it lazy. -/
def Reading.repeatLast (r : Reading) (min : Nat) (max : Option Nat) (cs : List Char) :
    Except Fault (Reading × List Char) :=
  match r.items with
  | [] => .error .nothingToRepeat
  | item :: items =>
    if item.isSwitch then .error .nothingToRepeat
    else
      let (lazy, rest) := match cs with
        | '?' :: rest => (true, rest)
        | rest => (false, rest)
      let greedy := lazy == r.flags.swapGreed
      let expr := item.expr.times min max greedy
      .ok ({ r with items := { expr, depth := item.depth + 1 } :: items }, rest)

/-! ## Groups -/

/-- The modes after one flag letter has been switched. -/
def Flags.switch? (f : Flags) (letter : Char) (on : Bool) : Option Flags :=
  if letter = 'i' then some { f with ignoreCase := on }
  else if letter = 'm' then some { f with multiLine := on }
  else if letter = 's' then some { f with dotAll := on }
  else if letter = 'U' then some { f with swapGreed := on }
  else if letter = 'u' then some { f with unicode := on }
  else if letter = 'R' then some { f with crlf := on }
  else if letter = 'x' then some { f with verbose := on }
  else none

/-- Reads flag letters up to `:` or `)`.  `seen` are the letters and the minus sign before. -/
def readFlags (f : Flags) (seen : List Char) : List Char →
    Except Fault (Flags × List Char × List Char)
  | [] => .error .flags
  | c :: cs =>
    if c = ':' || c = ')' then
      if seen.head? = some '-' then .error .flags else .ok (f, seen, c :: cs)
    else if seen.contains c then .error .flags
    else if c = '-' then readFlags f ('-' :: seen) cs
    else
      match f.switch? c (!seen.contains '-') with
      | some f' => readFlags f' (c :: seen) cs
      | none => .error .flags

/-- Reads the name of a group up to the closing angle bracket. -/
def readName (name : List Char) : List Char → Except Fault (List Char × List Char)
  | [] => .error .groupName
  | c :: cs =>
    if c = '>' then if name.isEmpty then .error .groupName else .ok (name.reverse, cs)
    else if c = '_' || (if name.isEmpty then isAlphabetic c
        else isAlphanumeric c || c = '.' || c = '[' || c = ']') then
      readName (c :: name) cs
    else .error .groupName

/-- Enters a group with the given number and modes. -/
def Reading.enter (r : Reading) (index : Option Nat) (flags : Flags) : Reading :=
  { r with
    flags, alts := [], items := []
    outer := ⟨index, r.flags, r.alts, r.items⟩ :: r.outer }

def Reading.enterCapture (r : Reading) : Reading :=
  { r with groups := r.groups + 1 }.enter (some (r.groups + 1)) r.flags

/-- Enters a capturing group with a name that no group before it has. -/
def Reading.enterNamed (r : Reading) (cs : List Char) : Except Fault (Reading × List Char) := do
  let (name, rest) ← readName [] cs
  if r.names.contains name then .error .groupName
  else .ok ({ r with names := name :: r.names }.enterCapture, rest)

/-- Reads what follows an opening parenthesis. -/
def Reading.openGroup (r : Reading) (cs : List Char) : Except Fault (Reading × List Char) :=
  match r.flags.skip cs with
  | '?' :: '=' :: _ => .error .lookAround
  | '?' :: '!' :: _ => .error .lookAround
  | '?' :: '<' :: '=' :: _ => .error .lookAround
  | '?' :: '<' :: '!' :: _ => .error .lookAround
  | '?' :: 'P' :: '<' :: rest => r.enterNamed rest
  | '?' :: '<' :: rest => r.enterNamed rest
  | '?' :: rest => do
    let (flags, seen, rest) ← readFlags r.flags [] rest
    match rest with
    | ':' :: after => .ok (r.enter none flags, after)
    | _ :: after =>
      if seen.isEmpty then .error .nothingToRepeat
      else .ok ({ r with flags }.push { expr := .empty, isSwitch := true }, after)
    | [] => .error .flags
  | rest => .ok (r.enterCapture, rest)

/-- Leaves the innermost group. -/
def Reading.closeGroup (r : Reading) : Except Fault Reading :=
  match r.outer with
  | [] => .error .groupUnopened
  | g :: outer =>
    let body := r.body
    let expr := match g.index with
      | some n => .group n body.expr
      | none => body.expr
    .ok
      { r with
        flags := g.flags, alts := g.alts, outer
        items := { expr, depth := body.depth + 1 } :: g.items }

/-! ## The whole text -/

/-- The set of a dot in the current mode. -/
def Flags.dot (f : Flags) : CharSet :=
  if f.dotAll then .all
  else if f.crlf then CharSet.compl (.ofChars ['\n', '\r'])
  else CharSet.compl (.single '\n')

/-- The assertion of a caret in the current mode. -/
def Flags.caret (f : Flags) : Assertion :=
  if !f.multiLine then .textStart else if f.crlf then .lineStartCrlf else .lineStart

/-- The assertion of a dollar sign in the current mode. -/
def Flags.dollar (f : Flags) : Assertion :=
  if !f.multiLine then .textEnd else if f.crlf then .lineEndCrlf else .lineEnd

/-- Reads the piece that starts with `c`. -/
def Reading.step (r : Reading) (c : Char) (cs : List Char) : Except Fault (Reading × List Char) :=
  match c with
  | '(' => r.openGroup cs
  | ')' => do .ok (← r.closeGroup, cs)
  | '|' => .ok ({ r with alts := r.sequence :: r.alts, items := [] }, cs)
  | '[' => do
    let (part, rest) ← readBracket r.flags cs
    .ok (r.push { expr := .ofSet part.set, depth := part.depth }, rest)
  | '?' => r.repeatLast 0 (some 1) cs
  | '*' => r.repeatLast 0 none cs
  | '+' => r.repeatLast 1 none cs
  | '\x7b' => do
    let ((min, max), rest) ← readCounts r.flags cs
    r.repeatLast min max rest
  | '\\' => do
    let (piece, rest) ← readEscape r.flags cs
    match piece with
    | .literal x => .ok (r.push { expr := r.literal x }, rest)
    | .set k => .ok (r.push { expr := .ofSet k }, rest)
    | .assertion a => .ok (r.push { expr := .assert a }, rest)
  | '.' =>
    if r.flags.unicode then .ok (r.push { expr := .set r.flags.dot }, cs)
    else .error .partOfCharacter
  | '^' => .ok (r.push { expr := .assert r.flags.caret }, cs)
  | '$' => .ok (r.push { expr := .assert r.flags.dollar }, cs)
  | c => .ok (r.push { expr := r.literal c }, cs)

/-- Reads at most `n` pieces. -/
def Reading.readAll : Nat → Reading → List Char → Except Fault Reading
  | 0, r, _ => .ok r
  | n + 1, r, cs =>
    match r.flags.skip cs with
    | [] => .ok r
    | c :: rest => do
      let (r', rest') ← r.step c rest
      readAll n r' rest'

/-- Parts may be nested this deep. -/
def depthLimit : Nat := 250

/-- Reads the text of a pattern; every piece takes at least one character. -/
def readExpr (cs : List Char) : Except Fault Expr := do
  let r ← Reading.readAll (cs.length + 1) {} cs
  if !r.outer.isEmpty then .error .groupUnclosed
  else
    let body := r.body
    if depthLimit < body.depth then .error .tooDeep else .ok body.expr

end DocAudit.Pattern
