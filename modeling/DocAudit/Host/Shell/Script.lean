/-!
# Shell scripts

A script is a list of commands.  Line ends and semicolons separate commands that are run in any
case, `&&` and `||` make the next command depend on the success of the one before.  A command has
words, in which quotes protect text and a dollar sign names a variable, and may send its output
and its complaints elsewhere.
-/

namespace DocAudit.Host.Shell

inductive Piece where
  | char (c : Char)
  /-- Quotes, which make a word even if there is nothing between them. -/
  | quotes
  /-- A variable; outside of quotes its value may make several words. -/
  | variable (name : String) (isQuoted : Bool)
  deriving DecidableEq, Repr

/-- A word before its variables have been replaced. -/
abbrev Word := List Piece

/-- The outputs of a command. -/
inductive Channel where
  | output
  | complaints
  deriving DecidableEq, Repr

/-- A part of a script. -/
inductive Token where
  | word (w : Word)
  | endOfLine
  | semicolon
  | andThen
  | orElse
  /-- `>` for a channel; the next word is a file. -/
  | toFile (c : Channel)
  /-- `>&` for a channel; the next word is a channel. -/
  | toChannel (c : Channel)
  deriving DecidableEq, Repr

/-- Why a script cannot be read. -/
inductive SyntaxFault where
  | openQuote
  | unexpected (text : String)
  deriving DecidableEq, Repr

def SyntaxFault.message : SyntaxFault → String
  | .openQuote => "Syntax error: Unterminated quoted string"
  | .unexpected text => s!"Syntax error: \"{text}\" unexpected"

/-! ## Words -/

/-- Whether a character may start the name of a variable. -/
def isNameStart (c : Char) : Bool := c.isAlpha || c = '_'

/-- Whether a character may stand in the name of a variable. -/
def isNameChar (c : Char) : Bool := c.isAlphanum || c = '_'

/-- The characters that are names of variables by themselves. -/
def isSpecialName (c : Char) : Bool := "@*#?$!-0123456789".toList.contains c

/-- Reads the name of a variable after a dollar sign. -/
def readVariable : List Char → Option (String × List Char)
  | '\x7b' :: cs =>
    match cs.span (· ≠ '\x7d') with
    | (name, _ :: rest) => some (String.ofList name, rest)
    | (_, []) => none
  | c :: cs =>
    if isNameStart c then
      some (String.ofList (c :: cs.takeWhile isNameChar), cs.dropWhile isNameChar)
    else if isSpecialName c then some (String.singleton c, cs)
    else none
  | [] => none

/-- Whether a character ends a word outside of quotes. -/
def endsWord (c : Char) : Bool := " \t\n;&|<>()".toList.contains c

/-- The kinds of text that a part of a word can stand in. -/
inductive Quoting where
  | bare
  | single
  | double
  deriving DecidableEq, Repr

/-- Reads a word.  The pieces so far are in reverse. -/
def readWord : (fuel : Nat) → Quoting → Word → List Char → Except SyntaxFault (Word × List Char)
  | 0, _, w, cs => .ok (w.reverse, cs)
  | n + 1, .bare, w, cs =>
    match cs with
    | [] => .ok (w.reverse, [])
    | '\x27' :: rest => readWord n .single (.quotes :: w) rest
    | '"' :: rest => readWord n .double (.quotes :: w) rest
    | '\\' :: '\n' :: rest => readWord n .bare w rest
    | '\\' :: c :: rest => readWord n .bare (.char c :: w) rest
    | '$' :: rest =>
      match readVariable rest with
      | some (name, rest) => readWord n .bare (.variable name false :: w) rest
      | none => readWord n .bare (.char '$' :: w) rest
    | c :: rest => if endsWord c then .ok (w.reverse, cs) else readWord n .bare (.char c :: w) rest
  | n + 1, .single, w, cs =>
    match cs with
    | [] => .error .openQuote
    | '\x27' :: rest => readWord n .bare w rest
    | c :: rest => readWord n .single (.char c :: w) rest
  | n + 1, .double, w, cs =>
    match cs with
    | [] => .error .openQuote
    | '"' :: rest => readWord n .bare w rest
    | '\\' :: '\n' :: rest => readWord n .double w rest
    | '\\' :: c :: rest =>
      if "$`\"\\".toList.contains c then readWord n .double (.char c :: w) rest
      else readWord n .double (.char c :: .char '\\' :: w) rest
    | '$' :: rest =>
      match readVariable rest with
      | some (name, rest) => readWord n .double (.variable name true :: w) rest
      | none => readWord n .double (.char '$' :: w) rest
    | c :: rest => readWord n .double (.char c :: w) rest

def readTokens : (fuel : Nat) → List Char → Except SyntaxFault (List Token)
  | 0, _ => .ok []
  | n + 1, cs =>
    let next (t : Token) (rest : List Char) := (readTokens n rest).map (t :: ·)
    match cs with
    | [] => .ok []
    | ' ' :: rest => readTokens n rest
    | '\t' :: rest => readTokens n rest
    | '#' :: rest => readTokens n (rest.dropWhile (· ≠ '\n'))
    | '\n' :: rest => next .endOfLine rest
    | ';' :: rest => next .semicolon rest
    | '&' :: '&' :: rest => next .andThen rest
    | '|' :: '|' :: rest => next .orElse rest
    | '1' :: '>' :: '&' :: rest => next (.toChannel .output) rest
    | '2' :: '>' :: '&' :: rest => next (.toChannel .complaints) rest
    | '>' :: '&' :: rest => next (.toChannel .output) rest
    | '1' :: '>' :: rest => next (.toFile .output) rest
    | '2' :: '>' :: rest => next (.toFile .complaints) rest
    | '>' :: rest => next (.toFile .output) rest
    | c :: _ =>
      if endsWord c then .error (.unexpected (String.singleton c))
      else
        match readWord (cs.length + 1) .bare [] cs with
        | .ok (w, rest) => next (.word w) rest
        | .error e => .error e

/-! ## Commands -/

/-- When a command is run. -/
inductive Condition where
  | always
  | afterSuccess
  | afterFailure
  deriving DecidableEq, Repr

/-- Where an output is sent. -/
inductive Redirection where
  | file (c : Channel) (target : Word)
  | channel (c : Channel) (target : Word)
  deriving DecidableEq, Repr

structure Step where
  condition : Condition := .always
  /-- The number of the line that the command stands on. -/
  line : Nat := 1
  words : List Word := []
  redirections : List Redirection := []
  deriving DecidableEq, Repr

/-- Whether nothing of a command has been read. -/
def Step.isBlank (s : Step) : Bool := s.words.isEmpty && s.redirections.isEmpty

/-- Collects the commands; `s` is the command under way. -/
def readSteps (s : Step) : List Token → Except SyntaxFault (List Step)
  | [] => .ok (if s.isBlank then [] else [s])
  | .toFile c :: .word w :: ts =>
    readSteps { s with redirections := s.redirections ++ [.file c w] } ts
  | .toChannel c :: .word w :: ts =>
    readSteps { s with redirections := s.redirections ++ [.channel c w] } ts
  | .toFile _ :: _ => .error (.unexpected "newline")
  | .toChannel _ :: _ => .error (.unexpected "newline")
  | .word w :: ts => readSteps { s with words := s.words ++ [w] } ts
  | .endOfLine :: ts =>
    if s.isBlank then readSteps { s with line := s.line + 1 } ts
    else (readSteps { line := s.line + 1 } ts).map (s :: ·)
  | .semicolon :: ts =>
    if s.isBlank then .error (.unexpected ";") else (readSteps { line := s.line } ts).map (s :: ·)
  | .andThen :: ts =>
    if s.isBlank then .error (.unexpected "&&")
    else (readSteps { line := s.line, condition := .afterSuccess } ts).map (s :: ·)
  | .orElse :: ts =>
    if s.isBlank then .error (.unexpected "||")
    else (readSteps { line := s.line, condition := .afterFailure } ts).map (s :: ·)

def readScript (text : String) : Except SyntaxFault (List Step) := do
  let cs := text.toList
  readSteps {} (← readTokens (cs.length + 1) cs)

end DocAudit.Host.Shell
