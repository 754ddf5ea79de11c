/-!
# Glob patterns for excluded files

In a glob a question mark stands for one character, a star for any text, and brackets for one
character of a set; all of them match slashes too.  Two stars must be a whole component of the
path and stand for any number of whole components.
-/

namespace DocAudit

/-- A member of a bracket expression. -/
inductive Glob.Member where
  | char (c : Char)
  | range (lo hi : Char)
  deriving DecidableEq, Repr

inductive Glob.Token where
  | char (c : Char)
  | anyChar
  | anyText
  | anyComponents
  | within (ms : List Glob.Member)
  | except (ms : List Glob.Member)
  deriving DecidableEq, Repr

structure Glob where
  tokens : List Glob.Token
  deriving DecidableEq, Repr

namespace Glob

/-- Why a text is no glob. -/
inductive Fault where
  | wildcards
  | recursiveWildcards
  | range
  deriving DecidableEq, Repr

/-- A fault and the index of the character near which it was found. -/
structure Error where
  position : Nat
  fault : Fault
  deriving DecidableEq, Repr

def Fault.message : Fault → String
  | .wildcards => "wildcards are either regular `*` or recursive `**`"
  | .recursiveWildcards => "recursive wildcards must form a single path component"
  | .range => "invalid range pattern"

def Error.message (e : Error) : String :=
  s!"Pattern syntax error near position {e.position}: {e.fault.message}"

/-- The members between two brackets. -/
def membersOf : List Char → List Member
  | a :: '-' :: b :: rest => .range a b :: membersOf rest
  | a :: rest => .char a :: membersOf rest
  | [] => []

/-- Reads the members after an opening bracket.  The first character is a member even if it is a
closing bracket. -/
def readMembers (cs : List Char) : Option (List Member × List Char) :=
  match cs with
  | first :: rest =>
    match rest.dropWhile (· ≠ ']') with
    | _ :: after => some (membersOf (first :: rest.takeWhile (· ≠ ']')), after)
    | [] => none
  | [] => none

/-- Adds two stars to the tokens before, which are in reverse.  A second pair right after another
one says nothing new. -/
def pushComponents (tokens : List Token) : List Token :=
  match tokens with
  | .anyComponents :: _ :: _ => tokens
  | _ => .anyComponents :: tokens

/-- Reads the tokens from position `pos` on.  `before` is the character before, and `tokens` are
the tokens so far in reverse. -/
def readTokens : (fuel pos : Nat) → Option Char → List Token → List Char →
    Except Error (List Token)
  | 0, _, _, tokens, _ => .ok tokens.reverse
  | n + 1, pos, before, tokens, cs =>
    match cs with
    | [] => .ok tokens.reverse
    | '?' :: rest => readTokens n (pos + 1) (some '?') (.anyChar :: tokens) rest
    | '*' :: rest =>
      let stars := 1 + (rest.takeWhile (· = '*')).length
      let after := rest.dropWhile (· = '*')
      if stars = 1 then readTokens n (pos + 1) (some '*') (.anyText :: tokens) rest
      else if stars > 2 then .error ⟨pos + 2, .wildcards⟩
      else if before.all (· = '/') then
        match after with
        | [] => .ok (pushComponents tokens).reverse
        | '/' :: after => readTokens n (pos + 3) (some '/') (pushComponents tokens) after
        | _ => .error ⟨pos + 2, .recursiveWildcards⟩
      else .error ⟨pos - 1, .recursiveWildcards⟩
    | '[' :: '!' :: rest =>
      match readMembers rest with
      | some (ms, after) =>
        readTokens n (pos + (cs.length - after.length)) (some ']') (.except ms :: tokens) after
      | none => .error ⟨pos, .range⟩
    | '[' :: rest =>
      match readMembers rest with
      | some (ms, after) =>
        readTokens n (pos + (cs.length - after.length)) (some ']') (.within ms :: tokens) after
      | none => .error ⟨pos, .range⟩
    | c :: rest => readTokens n (pos + 1) (some c) (.char c :: tokens) rest

def compile (text : String) : Except Error Glob :=
  let cs := text.toList
  (readTokens (cs.length + 1) 0 none [] cs).map Glob.mk

def Member.accepts (c : Char) : Member → Bool
  | .char x => c = x
  | .range lo hi => lo ≤ c && c ≤ hi

/-! ## Matching

A text is matched token by token.  `Marks` tell which positions of the text the tokens so far can
lead to; there is one mark before each character and one at the end.
-/

/-- Whether each position of a text can be reached, the first position first. -/
abbrev Marks := List Bool

/-- The marks behind the accepted characters. -/
def marksBehind (accepts : Char → Bool) : List Char → Marks → Marks
  | c :: cs, m :: ms => (m && accepts c) :: marksBehind accepts cs ms
  | _, _ => []

/-- The marks with all positions after a marked one; `reached` tells whether there was one
before. -/
def marksAfter (reached : Bool) : Marks → Marks
  | [] => []
  | m :: ms => (reached || m) :: marksAfter (reached || m) ms

/-- The marks with all positions after a marked one where a component starts, and the end of the
text.  `before` is the character before. -/
def componentMarks (reached : Bool) (before : Option Char) : List Char → Marks → Marks
  | c :: cs, m :: ms =>
    (m || (reached && before = some '/')) :: componentMarks (reached || m) (some c) cs ms
  | _, ms => ms.map (reached || ·)

/-- The marks after one more token. -/
def Token.move (cs : List Char) (marks : Marks) : Token → Marks
  | .char x => false :: marksBehind (· = x) cs marks
  | .anyChar => false :: marksBehind (fun _ => true) cs marks
  | .within ms => false :: marksBehind (fun c => ms.any (Member.accepts c)) cs marks
  | .except ms => false :: marksBehind (fun c => !ms.any (Member.accepts c)) cs marks
  | .anyText => marksAfter false marks
  | .anyComponents => componentMarks false none cs marks

/-- Whether the tokens match the whole text. -/
def matchesTokens (tokens : List Token) (cs : List Char) : Bool :=
  (tokens.foldl (Token.move cs) (true :: cs.map fun _ => false)).getLast? = some true

/-- Whether the glob matches the whole path. -/
def isMatch (g : Glob) (path : String) : Bool := matchesTokens g.tokens path.toList

end Glob

end DocAudit
