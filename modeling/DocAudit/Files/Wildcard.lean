import DocAudit.Pattern.Match
import DocAudit.Text.Utf8

/-!
# Wildcard patterns for paths

The patterns of ignore rules.  A question mark stands for one byte and a star for any number of
them, but neither for a slash.  Two stars between slashes stand for any number of directories.
Brackets stand for one byte of a set, braces for one of several patterns, and a backslash takes
its meaning from the character after it.

A pattern is read into tokens, and the tokens mean an expression over the bytes of a path.
-/

namespace DocAudit.Files

open Pattern (Expr CharSet)

namespace Wildcard

inductive Token where
  | char (c : Char)
  /-- A question mark. -/
  | anyByte
  /-- A star. -/
  | anyName
  /-- Two stars before the first slash. -/
  | leadingDirs
  /-- Two stars between two slashes. -/
  | innerDirs
  /-- Two stars after the last slash. -/
  | trailingDirs
  | set (negated : Bool) (ranges : List (Char × Char))
  | choice (branches : List (List Token))

/-- Why a text is no pattern. -/
inductive Fault where
  | unclosedSet
  | invalidRange (lo hi : Char)
  | unopenedChoice
  | unclosedChoice
  | danglingEscape
  deriving DecidableEq, Repr

def Fault.message : Fault → String
  | .unclosedSet => "unclosed character class; missing ']'"
  | .invalidRange lo hi => s!"invalid range; '{lo}' > '{hi}'"
  | .unopenedChoice =>
    "unopened alternate group; missing '\x7b' (maybe escape '\x7d' with '[\x7d]'?)"
  | .unclosedChoice =>
    "unclosed alternate group; missing '\x7d' (maybe escape '\x7b' with '[\x7b]'?)"
  | .danglingEscape => "dangling '\\'"

/-! ## Reading -/

structure Reading where
  /-- The tokens of the current branch, in reverse. -/
  tokens : List Token := []
  /-- The finished branches of the current choice, in reverse. -/
  branches : List (List Token) := []
  /-- The tokens and branches around the open choices, the innermost first. -/
  outer : List (List Token × List (List Token)) := []
  before : Option Char := none
  /-- Whether an opening bracket without a closing one has been met, so that no bracket counts. -/
  bracketsArePlain : Bool := false

namespace Reading

def push (r : Reading) (t : Token) : Reading := { r with tokens := t :: r.tokens }

def isInChoice (r : Reading) : Bool := !r.outer.isEmpty

/-- Adds two plain stars. -/
def pushStars (r : Reading) : Reading := (r.push .anyName).push .anyName

/-- Puts two stars for directories in the place of the last token, unless that says it already. -/
def replaceLast (r : Reading) (t : Token) : Reading :=
  match r.tokens with
  | .leadingDirs :: _ => r
  | .trailingDirs :: _ => r
  | _ :: rest => { r with tokens := t :: rest }
  | [] => r.push t

/-- Reads on after two stars. -/
def readStars (r : Reading) (cs : List Char) : Reading × List Char :=
  if r.tokens.isEmpty then
    match cs with
    | [] => (r.push .leadingDirs, [])
    | '/' :: rest => ({ r.push .leadingDirs with before := some '/' }, rest)
    | _ => (r.pushStars, cs)
  else if r.before = some '/' || (r.isInChoice && (r.before = some ',' || r.before = some '\x7b'))
  then
    match cs with
    | [] => (r.replaceLast .trailingDirs, [])
    | '/' :: rest => ({ r.replaceLast .innerDirs with before := some '/' }, rest)
    | ',' :: _ => (if r.isInChoice then r.replaceLast .trailingDirs else r.pushStars, cs)
    | '\x7d' :: _ => (if r.isInChoice then r.replaceLast .trailingDirs else r.pushStars, cs)
    | _ => (r.pushStars, cs)
  else (r.pushStars, cs)

def openChoice (r : Reading) : Reading :=
  { r with tokens := [], branches := [], outer := (r.tokens, r.branches) :: r.outer }

def nextBranch (r : Reading) : Reading :=
  { r with tokens := [], branches := r.tokens.reverse :: r.branches }

def closeChoice (r : Reading) : Except Fault Reading :=
  match r.outer with
  | [] => .error .unopenedChoice
  | (tokens, branches) :: outer =>
    let choice := .choice (r.tokens.reverse :: r.branches).reverse
    .ok { r with tokens := choice :: tokens, branches, outer }

end Reading

/-- Ends the last range of a set at `c`. -/
def endRange (c : Char) : List (Char × Char) → Except Fault (List (Char × Char))
  | (lo, _) :: rest => if c < lo then .error (.invalidRange lo c) else .ok ((lo, c) :: rest)
  | [] => .ok []

/-- Reads the members of a set up to the closing bracket.  The ranges so far are in reverse;
`inRange` tells that a dash waits for the end of its range.  The first member may be a bracket. -/
def readSet (first inRange : Bool) (ranges : List (Char × Char)) :
    List Char → Except Fault (List (Char × Char) × List Char)
  | [] => .error .unclosedSet
  | c :: cs =>
    if c = ']' && !first then
      .ok ((if inRange then ('-', '-') :: ranges else ranges).reverse, cs)
    else if c = '-' && !first && !inRange then readSet false true ranges cs
    else if inRange && c ≠ ']' then
      match endRange c ranges with
      | .ok ranges => readSet false false ranges cs
      | .error e => .error e
    else readSet false false ((c, c) :: ranges) cs

/-- Reads a set after its opening bracket. -/
def readBrackets (cs : List Char) : Except Fault (Token × List Char) :=
  match cs with
  | '!' :: rest => (readSet true false [] rest).map fun r => (.set true r.1, r.2)
  | '^' :: rest => (readSet true false [] rest).map fun r => (.set true r.1, r.2)
  | _ => (readSet true false [] cs).map fun r => (.set false r.1, r.2)

/-- Reads all tokens.  A set without closing bracket is an error unless `lenient`, when its
bracket and all later ones stand for themselves. -/
def readTokens (lenient : Bool) : (fuel : Nat) → Reading → List Char → Except Fault (List Token)
  | 0, r, _ => .ok r.tokens.reverse
  | n + 1, r, cs =>
    match cs with
    | [] => if r.isInChoice then .error .unclosedChoice else .ok r.tokens.reverse
    | c :: rest =>
      let next (r : Reading) (cs : List Char) := readTokens lenient n { r with before := some c } cs
      match c, rest with
      | '?', _ => next (r.push .anyByte) rest
      | '*', '*' :: after =>
        let (r, cs) := r.readStars after
        readTokens lenient n
          (if cs.length < after.length then r else { r with before := some '*' }) cs
      | '*', _ => next (r.push .anyName) rest
      | '\x7b', _ => next r.openChoice rest
      | '\x7d', _ =>
        match r.closeChoice with
        | .ok r => next r rest
        | .error e => .error e
      | ',', _ => next (if r.isInChoice then r.nextBranch else r.push (.char ',')) rest
      | '\\', [] => .error .danglingEscape
      | '\\', e :: after => readTokens lenient n { r.push (.char e) with before := some e } after
      | '[', _ =>
        if r.bracketsArePlain then next (r.push (.char c)) rest
        else
          match readBrackets rest with
          | .ok (token, after) =>
            readTokens lenient n { r.push token with before := some ']' } after
          | .error .unclosedSet =>
            if lenient then next { r.push (.char c) with bracketsArePlain := true } rest
            else .error .unclosedSet
          | .error e => .error e
      | _, _ => next (r.push (.char c)) rest

/-! ## Meaning -/

/-- The bytes of a text, each as the character of its number. -/
def bytes (s : String) : List Char := (Text.utf8 s).map fun b => Char.ofNat b.toNat

def slash : Expr := .literal ['/']

def notSlash : Expr := .set (CharSet.compl (.single '/'))

def anything : Expr := .repeated (.set .all) 0 none true

/-- The bytes of a set.  Each range goes from the last byte of its lower to the first byte of its
upper end; further bytes of the ends are members too. -/
def setBytes (ranges : List (Char × Char)) : CharSet :=
  .ofRanges (ranges.flatMap fun (lo, hi) =>
    let los := (bytes (String.singleton lo)).map Char.toNat
    let his := (bytes (String.singleton hi)).map Char.toNat
    if lo = hi then los.map fun b => (b, b)
    else
      los.dropLast.map (fun b => (b, b)) ++
        [(los.getLast?.getD 0, his.head?.getD 0)] ++ his.tail.map fun b => (b, b))

mutual

/-- The expression that a token means. -/
def tokenExpr : Token → Expr
  | .char c => .literal (bytes (String.singleton c))
  | .anyByte => notSlash
  | .anyName => .repeated notSlash 0 none true
  | .leadingDirs => .alt (.repeated slash 0 (some 1) true) (.seq anything slash)
  | .innerDirs => .alt slash (.seq slash (.seq anything slash))
  | .trailingDirs => .seq slash anything
  | .set negated ranges => .set (CharSet.complIf negated (setBytes ranges))
  | .choice branches =>
    match (branchExprs branches).filter (· ≠ .empty) with
    | [] => .empty
    | es => .ofAlts es

def tokenExprs : List Token → List Expr
  | [] => []
  | t :: ts => tokenExpr t :: tokenExprs ts

def branchExprs : List (List Token) → List Expr
  | [] => []
  | b :: bs => .ofSeq (tokenExprs b) :: branchExprs bs

end

/-- The expression that a whole pattern means.  Two stars alone stand for any path. -/
def exprOf : List Token → Expr
  | [.leadingDirs] => anything
  | tokens => .ofSeq (tokenExprs tokens)

end Wildcard

structure Wildcard where
  expr : Expr
  deriving DecidableEq, Repr

namespace Wildcard

def compile (lenient : Bool) (text : String) : Except Fault Wildcard :=
  let cs := text.toList
  (readTokens lenient (cs.length + 1) {} cs).map fun tokens => ⟨exprOf tokens⟩

/-- Whether the pattern matches the whole path. -/
def isMatch (w : Wildcard) (path : String) : Bool :=
  let cs := bytes path
  (Pattern.endsFrom w.expr ⟨⟨cs.length, none, cs⟩, []⟩).any fun s => s.cursor.rest.isEmpty

end Wildcard

end DocAudit.Files
