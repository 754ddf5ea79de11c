import DocAudit.Json.Value
import DocAudit.Text.Hexadecimal

/-!
# Reading JSON

`Json.parse` reads a text that holds exactly one value.  Readers take the characters from the
value on and give the value with the characters behind it; `none` means that the text is no JSON.
-/

namespace DocAudit.Json

open DocAudit.Text

def isSpace (c : Char) : Bool := c = ' ' || c = '\n' || c = '\t' || c = '\r'

/-- The characters from the next token on. -/
def skip (cs : List Char) : List Char := cs.dropWhile isSpace

/-- The digits at the start of the text, and the rest. -/
def digits (cs : List Char) : List Char × List Char :=
  (cs.takeWhile Char.isDigit, cs.dropWhile Char.isDigit)

/-- Reads the digits before the decimal point: no zero in front of further digits. -/
def readInteger (cs : List Char) : Option (List Char × List Char) :=
  match digits cs with
  | (['0'], rest) => some (['0'], rest)
  | ('0' :: _, _) => none
  | ([], _) => none
  | (ds, rest) => some (ds, rest)

/-- Reads a decimal point with the digits behind it, if there is one. -/
def readFraction (cs : List Char) : Option (List Char × List Char) :=
  match cs with
  | '.' :: rest =>
    match digits rest with
    | ([], _) => none
    | (ds, rest) => some (ds, rest)
  | _ => some ([], cs)

/-- Reads the sign of an exponent: whether it is negative. -/
def readExponentSign : List Char → Bool × List Char
  | '+' :: rest => (false, rest)
  | '-' :: rest => (true, rest)
  | rest => (false, rest)

/-- Reads an exponent, if there is one. -/
def readExponent (cs : List Char) : Option (Option (Bool × List Char) × List Char) :=
  match cs with
  | c :: rest =>
    if c = 'e' || c = 'E' then
      let (negative, rest) := readExponentSign rest
      match digits rest with
      | ([], _) => none
      | (ds, rest) => some (some (negative, ds), rest)
    else some (none, cs)
  | [] => some (none, [])

def readNumber (cs : List Char) : Option (Number × List Char) := do
  let (negative, cs) := match cs with
    | '-' :: rest => (true, rest)
    | rest => (false, rest)
  let (integer, cs) ← readInteger cs
  let (fraction, cs) ← readFraction cs
  let (exponent, cs) ← readExponent cs
  some (⟨negative, integer, fraction, exponent⟩, cs)

/-- The character that a one-letter escape stands for. -/
def simpleEscape? (c : Char) : Option Char :=
  if c = '"' || c = '\\' || c = '/' then some c
  else if c = 'b' then some '\x08'
  else if c = 'f' then some '\x0c'
  else if c = 'n' then some '\n'
  else if c = 'r' then some '\r'
  else if c = 't' then some '\t'
  else none

/-- One step through a string: the units it stands for, `none` for half of a surrogate pair. -/
inductive StringStep where
  /-- The closing quote. -/
  | close (rest : List Char)
  | char (c : Option Char) (rest : List Char)
  | malformed

/-- Whether a number is the first half of a surrogate pair. -/
def isHighSurrogate (n : Nat) : Bool := 0xD800 ≤ n && n ≤ 0xDBFF

/-- Whether a number is the second half of a surrogate pair. -/
def isLowSurrogate (n : Nat) : Bool := 0xDC00 ≤ n && n ≤ 0xDFFF

/-- Reads the next character of a string. -/
def stringStep : List Char → StringStep
  | [] => .malformed
  | '"' :: rest => .close rest
  | '\\' :: 'u' :: a :: b :: c :: d :: rest =>
    match hexNumber? [a, b, c, d] with
    | none => .malformed
    | some n =>
      if isHighSurrogate n then
        match rest with
        | '\\' :: 'u' :: e :: f :: g :: h :: after =>
          match hexNumber? [e, f, g, h] with
          | none => .malformed
          | some m =>
            if isLowSurrogate m then
              .char (some (Char.ofNat (0x10000 + (n - 0xD800) * 1024 + (m - 0xDC00)))) after
            else .char none rest
        | _ => .char none rest
      else if isLowSurrogate n then .char none rest
      else .char (some (Char.ofNat n)) rest
  | '\\' :: c :: rest =>
    match simpleEscape? c with
    | some x => .char (some x) rest
    | none => .malformed
  | c :: rest => if c.toNat < 0x20 || c = '\\' then .malformed else .char (some c) rest

/-- Reads a string after its opening quote.  `text` holds the characters so far in reverse, or
nothing if they denote no text; `fuel` bounds the number of characters. -/
def readString : (fuel : Nat) → Option (List Char) → List Char → Option (Option String × List Char)
  | 0, _, _ => none
  | n + 1, text, cs =>
    match stringStep cs with
    | .close rest => some (text.map fun t => String.ofList t.reverse, rest)
    | .char c rest => readString n (do some ((← c) :: (← text))) rest
    | .malformed => none

mutual

def readValue : (fuel : Nat) → List Char → Option (Json × List Char)
  | 0, _ => none
  | n + 1, cs =>
    match skip cs with
    | '"' :: rest => (readString n (some []) rest).map fun (t, r) => (.str t, r)
    | '[' :: rest =>
      match skip rest with
      | ']' :: after => some (.arr [], after)
      | _ => (readItems n [] rest).map fun (items, r) => (.arr items, r)
    | '\x7b' :: rest =>
      match skip rest with
      | '\x7d' :: after => some (.obj [], after)
      | _ => (readMembers n [] rest).map fun (members, r) => (.obj members, r)
    | 'n' :: 'u' :: 'l' :: 'l' :: rest => some (.null, rest)
    | 't' :: 'r' :: 'u' :: 'e' :: rest => some (.bool true, rest)
    | 'f' :: 'a' :: 'l' :: 's' :: 'e' :: rest => some (.bool false, rest)
    | cs => (readNumber cs).map fun (k, r) => (.number k, r)

/-- Reads the items of an array up to its end; `items` are those before, in reverse. -/
def readItems : (fuel : Nat) → List Json → List Char → Option (List Json × List Char)
  | 0, _, _ => none
  | n + 1, items, cs => do
    let (v, rest) ← readValue n cs
    match skip rest with
    | ',' :: rest => readItems n (v :: items) rest
    | ']' :: rest => some ((v :: items).reverse, rest)
    | _ => none

/-- Reads the members of an object up to its end; `members` are those before, in reverse. -/
def readMembers : (fuel : Nat) → List (Option String × Json) → List Char →
    Option (List (Option String × Json) × List Char)
  | 0, _, _ => none
  | n + 1, members, cs =>
    match skip cs with
    | '"' :: rest => do
      let (key, rest) ← readString n (some []) rest
      match skip rest with
      | ':' :: rest =>
        let (v, rest) ← readValue n rest
        match skip rest with
        | ',' :: rest => readMembers n ((key, v) :: members) rest
        | '\x7d' :: rest => some (((key, v) :: members).reverse, rest)
        | _ => none
      | _ => none
    | _ => none

end

/-- Reads a text that holds one value and nothing else.  Every step of the reader takes a
character, so twice the length of the text is fuel enough. -/
def parse (text : String) : Option Json :=
  let cs := text.toList
  match readValue (2 * cs.length + 2) cs with
  | some (v, rest) => if (skip rest).isEmpty then some v else none
  | none => none

end DocAudit.Json
