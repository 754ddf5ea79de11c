import DocAudit.Text.Hexadecimal
import DocAudit.Toml.Value

/-!
# Scalars of TOML

Readers for strings, numbers, truth values, dates and times.  Each takes the characters from the
scalar on and gives the scalar with the characters behind it.
-/

namespace DocAudit.Toml

open DocAudit.Text

/-- Blanks within a line. -/
def isBlankChar (c : Char) : Bool := c = ' ' || c = '\t'

/-- Characters that may stand in comments and strings: no control characters but the tab. -/
def isPlainChar (c : Char) : Bool := c = '\t' || (0x20 ≤ c.toNat && c.toNat ≠ 0x7F)

/-- The characters after the blanks. -/
def skipBlanks (cs : List Char) : List Char := cs.dropWhile isBlankChar

/-- The characters after a line end. -/
def readNewline : List Char → Option (List Char)
  | '\n' :: rest => some rest
  | '\r' :: '\n' :: rest => some rest
  | _ => none

/-! ## Strings -/

/-- The character that a one-letter escape stands for. -/
def simpleEscape? (c : Char) : Option Char :=
  if c = 'b' then some '\x08'
  else if c = 't' then some '\t'
  else if c = 'n' then some '\n'
  else if c = 'f' then some '\x0c'
  else if c = 'r' then some '\r'
  else if c = '"' || c = '\\' then some c
  else none

/-- The character whose code point hexadecimal digits write. -/
def codedChar? (ds : List Char) : Option Char := (hexNumber? ds).bind charOfCode?

/-- Reads a basic string after its opening quote; `text` is what was read before, in reverse. -/
def readBasic (text : List Char) : List Char → Option (String × List Char)
  | [] => none
  | '"' :: rest => some (String.ofList text.reverse, rest)
  | '\\' :: 'u' :: a :: b :: c :: d :: rest => do
    readBasic ((← codedChar? [a, b, c, d]) :: text) rest
  | '\\' :: 'U' :: a :: b :: c :: d :: e :: f :: g :: h :: rest => do
    readBasic ((← codedChar? [a, b, c, d, e, f, g, h]) :: text) rest
  | '\\' :: c :: rest => do readBasic ((← simpleEscape? c) :: text) rest
  | c :: rest => if isPlainChar c && c ≠ '\\' then readBasic (c :: text) rest else none

/-- Reads a literal string after its opening quote. -/
def readLiteral (text : List Char) : List Char → Option (String × List Char)
  | [] => none
  | c :: rest =>
    if c = '\x27' then some (String.ofList text.reverse, rest)
    else if isPlainChar c then readLiteral (c :: text) rest
    else none

/-- Whether only blanks stand before the end of the line. -/
def endsLine (cs : List Char) : Bool := (readNewline (skipBlanks cs)).isSome

/-- What follows three closing quotes: up to two more quotes still belong to the string. -/
def closeQuotes (quote : Char) (text : List Char) (cs : List Char) : String × List Char :=
  match cs with
  | a :: b :: rest =>
    if a = quote && b = quote then (String.ofList (quote :: quote :: text).reverse, rest)
    else if a = quote then (String.ofList (quote :: text).reverse, b :: rest)
    else (String.ofList text.reverse, cs)
  | [a] => if a = quote then (String.ofList (quote :: text).reverse, []) else
      (String.ofList text.reverse, cs)
  | [] => (String.ofList text.reverse, [])

/-- Reads a multi-line basic string after its opening quotes.  While `trim` holds, blanks and line
ends are dropped. -/
def readLongBasic (trim : Bool) (text : List Char) : List Char → Option (String × List Char)
  | [] => none
  | '"' :: '"' :: '"' :: rest => some (closeQuotes '"' text rest)
  | '\\' :: 'u' :: a :: b :: c :: d :: rest => do
    readLongBasic false ((← codedChar? [a, b, c, d]) :: text) rest
  | '\\' :: 'U' :: a :: b :: c :: d :: e :: f :: g :: h :: rest => do
    readLongBasic false ((← codedChar? [a, b, c, d, e, f, g, h]) :: text) rest
  | '\r' :: '\n' :: rest => readLongBasic trim (if trim then text else '\n' :: text) rest
  | '\\' :: c :: rest =>
    if isBlankChar c || c = '\n' || c = '\r' then
      if endsLine (c :: rest) then readLongBasic true text rest else none
    else do readLongBasic false ((← simpleEscape? c) :: text) rest
  | c :: rest =>
    if c = '\n' then readLongBasic trim (if trim then text else '\n' :: text) rest
    else if trim && isBlankChar c then readLongBasic true text rest
    else if isPlainChar c && c ≠ '\\' then readLongBasic false (c :: text) rest
    else none

/-- Reads a multi-line literal string after its opening quotes. -/
def readLongLiteral (text : List Char) : List Char → Option (String × List Char)
  | [] => none
  | '\x27' :: '\x27' :: '\x27' :: rest => some (closeQuotes '\x27' text rest)
  | '\r' :: '\n' :: rest => readLongLiteral ('\n' :: text) rest
  | c :: rest => if isPlainChar c || c = '\n' then readLongLiteral (c :: text) rest else none

/-- A line end right after the opening quotes of a multi-line string is dropped. -/
def dropFirstNewline (cs : List Char) : List Char := (readNewline cs).getD cs

/-- Reads a string of any of the four kinds. -/
def readString : List Char → Option (String × List Char)
  | '"' :: '"' :: '"' :: rest => readLongBasic false [] (dropFirstNewline rest)
  | '"' :: rest => readBasic [] rest
  | '\x27' :: '\x27' :: '\x27' :: rest => readLongLiteral [] (dropFirstNewline rest)
  | '\x27' :: rest => readLiteral [] rest
  | _ => none

/-! ## Numbers -/

/-- Reads digits of a class with single underscores between them, underscores left out. -/
def readGrouped (isDigit : Char → Bool) (ds : List Char) : List Char → List Char × List Char
  | c :: rest =>
    if isDigit c then readGrouped isDigit (c :: ds) rest
    else
      match rest with
      | d :: rest' =>
        if c = '_' && isDigit d && !ds.isEmpty then readGrouped isDigit (d :: ds) rest'
        else (ds.reverse, c :: rest)
      | [] => (ds.reverse, c :: rest)
  | [] => (ds.reverse, [])

/-- Reads an optional sign: whether it is a minus sign. -/
def readSign : List Char → Bool × List Char
  | '+' :: rest => (false, rest)
  | '-' :: rest => (true, rest)
  | rest => (false, rest)

/-- Reads decimal digits without a zero in front of others. -/
def readDecimal (cs : List Char) : Option (List Char × List Char) :=
  match cs with
  | '0' :: rest => some (['0'], rest)
  | _ =>
    match readGrouped Char.isDigit [] cs with
    | ([], _) => none
    | r => some r

/-- The number that digits of a base write. -/
def numberOf (base : Nat) (ds : List Char) : Nat :=
  ds.foldl (fun n d => base * n + (hexValue? d).getD 0) 0

/-- Whether an integer has sixty-four bits with its sign. -/
def fitsInt64 (n : Int) : Bool := -9223372036854775808 ≤ n && n ≤ 9223372036854775807

/-- Reads the digits of an integer in a base other than ten. -/
def readBased (base : Nat) (isDigit : Char → Bool) (cs : List Char) : Option (Int × List Char) :=
  match readGrouped isDigit [] cs with
  | ([], _) => none
  | (ds, rest) => some (numberOf base ds, rest)

def readInteger (cs : List Char) : Option (Int × List Char) := do
  let (n, rest) ← match cs with
    | '0' :: 'x' :: rest => readBased 16 (fun c => (hexValue? c).isSome) rest
    | '0' :: 'o' :: rest => readBased 8 (fun c => '0' ≤ c && c ≤ '7') rest
    | '0' :: 'b' :: rest => readBased 2 (fun c => c = '0' || c = '1') rest
    | _ => do
      let (negative, cs) := readSign cs
      let (ds, rest) ← readDecimal cs
      let n : Int := numberOf 10 ds
      some (if negative then -n else n, rest)
  if fitsInt64 n then some (n, rest) else none

/-- The floating-point number nearest to a decimal with the given digits and exponent. -/
def decimalFloat (negative : Bool) (digits : List Char) (exponent : Int) : Float :=
  let m := numberOf 10 digits
  let x :=
    if m = 0 then 0.0
    else if exponent > 400 then 1.0 / 0.0
    else if exponent < -(400 + (digits.length : Int)) then 0.0
    else if exponent ≥ 0 then Float.ofScientific (m * Nat.pow 10 exponent.toNat) false 0
    else Float.ofScientific m true (-exponent).toNat
  if negative then -x else x

/-- Reads the digits behind a decimal point. -/
def readFraction (cs : List Char) : Option (List Char × List Char) :=
  match cs with
  | '.' :: rest =>
    match readGrouped Char.isDigit [] rest with
    | ([], _) => none
    | r => some r
  | _ => none

def readExponent (cs : List Char) : Option (Int × List Char) :=
  match cs with
  | c :: rest =>
    if c = 'e' || c = 'E' then
      let (negative, rest) := readSign rest
      match readGrouped Char.isDigit [] rest with
      | ([], _) => none
      | (ds, rest) =>
        let n : Int := numberOf 10 ds
        some (if negative then -n else n, rest)
    else none
  | [] => none

/-- Reads a floating-point number in digits: a fraction, an exponent or both.  A positive number
too large for the format is refused. -/
def readDigitFloat (cs : List Char) : Option (Float × List Char) := do
  let (negative, cs) := readSign cs
  let (ds, cs) ← readDecimal cs
  let (fraction, cs, hasFraction) := match readFraction cs with
    | some (fs, rest) => (fs, rest, true)
    | none => ([], cs, false)
  let (exponent, rest, hasExponent) := match readExponent cs with
    | some (e, rest) => (e, rest, true)
    | none => (0, cs, false)
  if hasFraction || hasExponent then
    let x := decimalFloat negative (ds ++ fraction) (exponent - fraction.length)
    if x == 1.0 / 0.0 then none else some (x, rest)
  else none

/-- Reads one of the special floating-point numbers. -/
def readSpecialFloat (cs : List Char) : Option (Float × List Char) :=
  let (negative, cs) := readSign cs
  match cs with
  | 'i' :: 'n' :: 'f' :: rest => some (if negative then -1.0 / 0.0 else 1.0 / 0.0, rest)
  | 'n' :: 'a' :: 'n' :: rest => some (0.0 / 0.0, rest)
  | _ => none

def readFloat (cs : List Char) : Option (Float × List Char) :=
  (readDigitFloat cs).or (readSpecialFloat cs)

/-! ## Dates and times -/

/-- Reads exactly `n` digits. -/
def readFixed : Nat → Nat → List Char → Option (Nat × List Char)
  | 0, acc, cs => some (acc, cs)
  | n + 1, acc, c :: cs => if c.isDigit then readFixed n (10 * acc + (c.toNat - 48)) cs else none
  | _ + 1, _, [] => none

/-- Reads two digits for a number from `lo` to `hi`. -/
def readTwo (lo hi : Nat) (cs : List Char) : Option (Nat × List Char) := do
  let (n, rest) ← readFixed 2 0 cs
  if lo ≤ n && n ≤ hi then some (n, rest) else none

/-- Reads one given character. -/
def expect (c : Char) : List Char → Option (List Char)
  | d :: rest => if c = d then some rest else none
  | [] => none

def daysIn (year month : Nat) : Nat :=
  if month = 2 then
    if year % 4 = 0 && (year % 100 ≠ 0 || year % 400 = 0) then 29 else 28
  else if month = 4 || month = 6 || month = 9 || month = 11 then 30
  else 31

def readDate (cs : List Char) : Option (Date × List Char) := do
  let (year, cs) ← readFixed 4 0 cs
  let cs ← expect '-' cs
  let (month, cs) ← readTwo 1 12 cs
  let cs ← expect '-' cs
  let (day, cs) ← readTwo 1 31 cs
  if day ≤ daysIn year month then some (⟨year, month, day⟩, cs) else none

/-- Reads the fraction of a second in nanoseconds; digits after the ninth are dropped. -/
def readNanoseconds (cs : List Char) : Option (Nat × List Char) :=
  match cs with
  | '.' :: rest =>
    let ds := rest.takeWhile Char.isDigit
    if ds.isEmpty then none
    else
      let kept := ds.take 9
      some (numberOf 10 kept * Nat.pow 10 (9 - kept.length), rest.dropWhile Char.isDigit)
  | _ => some (0, cs)

def readTime (cs : List Char) : Option (Time × List Char) := do
  let (hour, cs) ← readTwo 0 23 cs
  let cs ← expect ':' cs
  let (minute, cs) ← readTwo 0 59 cs
  let cs ← expect ':' cs
  let (second, cs) ← readTwo 0 60 cs
  let (nanosecond, cs) ← readNanoseconds cs
  some (⟨hour, minute, second, nanosecond⟩, cs)

def readOffset (cs : List Char) : Option (Offset × List Char) :=
  match cs with
  | [] => none
  | c :: rest =>
    if c = 'Z' || c = 'z' then some (.utc, rest)
    else if c = '+' || c = '-' then do
      let (hours, cs) ← readTwo 0 23 rest
      let cs ← expect ':' cs
      let (minutes, cs) ← readTwo 0 59 cs
      let n : Int := hours * 60 + minutes
      some (.minutes (if c = '-' then -n else n), cs)
    else none

/-- Reads the time after a date: a `T` or a blank, the time, and perhaps an offset. -/
def readTimePart (cs : List Char) : Option ((Time × Option Offset) × List Char) := do
  match cs with
  | c :: rest =>
    if c = 'T' || c = 't' || c = ' ' then
      let (time, cs) ← readTime rest
      match readOffset cs with
      | some (offset, cs) => some ((time, some offset), cs)
      | none => some ((time, none), cs)
    else none
  | [] => none

/-- Reads a date, a time, or both. -/
def readDateTime (cs : List Char) : Option (DateTime × List Char) :=
  match readDate cs with
  | some (date, rest) =>
    match readTimePart rest with
    | some ((time, offset), rest) => some (⟨some date, some time, offset⟩, rest)
    | none => some (⟨some date, none, none⟩, rest)
  | none => (readTime cs).map fun (time, rest) => (⟨none, some time, none⟩, rest)

def readBoolean : List Char → Option (Bool × List Char)
  | 't' :: 'r' :: 'u' :: 'e' :: rest => some (true, rest)
  | 'f' :: 'a' :: 'l' :: 's' :: 'e' :: rest => some (false, rest)
  | _ => none

def readScalar (cs : List Char) : Option (Value × List Char) :=
  ((readString cs).map fun (s, r) => (.string s, r)).or <|
  ((readBoolean cs).map fun (b, r) => (.boolean b, r)).or <|
  ((readDateTime cs).map fun (d, r) => (.datetime d, r)).or <|
  ((readFloat cs).map fun (x, r) => (.float x, r)).or <|
  ((readInteger cs).map fun (n, r) => (.integer n, r))

end DocAudit.Toml
