import DocAudit.Digest.Hex
import DocAudit.Json.Value

/-!
# Writing JSON

`Json.pretty` writes a value over several lines, each level indented by two blanks.  Empty arrays
and objects stay on one line.
-/

namespace DocAudit.Json

/-- The characters that a character of a string is written as. -/
def escapeChar (c : Char) : List Char :=
  if c = '"' then ['\\', '"']
  else if c = '\\' then ['\\', '\\']
  else if c = '\n' then ['\\', 'n']
  else if c = '\r' then ['\\', 'r']
  else if c = '\t' then ['\\', 't']
  else if c = '\x08' then ['\\', 'b']
  else if c = '\x0c' then ['\\', 'f']
  else if c.toNat < 0x20 then
    '\\' :: 'u' :: '0' :: '0' :: Digest.byteChars (UInt8.ofNat c.toNat)
  else [c]

/-- A string with its quotes. -/
def quote (s : String) : String := String.ofList ('"' :: s.toList.flatMap escapeChar ++ ['"'])

def Number.display (n : Number) : String :=
  let sign := if n.negative then "-" else ""
  let fraction := if n.fraction.isEmpty then "" else "." ++ String.ofList n.fraction
  let exponent := match n.exponent with
    | some (negative, ds) => (if negative then "e-" else "e+") ++ String.ofList ds
    | none => ""
  sign ++ String.ofList n.integer ++ fraction ++ exponent

/-- A new line with the given indentation. -/
def newline (depth : Nat) : String := "\n" ++ "".pushn ' ' (2 * depth)

mutual

/-- A value over several lines, at the given depth. -/
def prettyAt (depth : Nat) : Json → String
  | .null => "null"
  | .bool b => if b then "true" else "false"
  | .number n => n.display
  | .str t => quote (t.getD "")
  | .arr [] => "[]"
  | .arr (v :: vs) =>
    "[" ++ newline (depth + 1) ++ prettyAt (depth + 1) v ++ prettyItems (depth + 1) vs ++
      newline depth ++ "]"
  | .obj [] => "\x7b\x7d"
  | .obj ((k, v) :: ms) =>
    "\x7b" ++ newline (depth + 1) ++ quote (k.getD "") ++ ": " ++ prettyAt (depth + 1) v ++
      prettyMembers (depth + 1) ms ++ newline depth ++ "\x7d"

/-- The further items of an array. -/
def prettyItems (depth : Nat) : List Json → String
  | [] => ""
  | v :: vs => "," ++ newline depth ++ prettyAt depth v ++ prettyItems depth vs

/-- The further members of an object. -/
def prettyMembers (depth : Nat) : List (Option String × Json) → String
  | [] => ""
  | (k, v) :: ms =>
    "," ++ newline depth ++ quote (k.getD "") ++ ": " ++ prettyAt depth v ++
      prettyMembers depth ms

end

/-- A value over several lines. -/
def pretty (v : Json) : String := prettyAt 0 v

end DocAudit.Json
