import DocAudit.Toml.Document

/-!
# Reading TOML

`Toml.parse` reads a whole document and gives the entries of its top table.
-/

namespace DocAudit.Toml

/-- Keys and values may be nested less deep than this. -/
def nestingLimit : Nat := 80

/-! ## Keys -/

/-- Characters of keys without quotes. -/
def isKeyChar (c : Char) : Bool := c.isAlphanum || c = '_' || c = '-'

/-- Reads one part of a dotted key. -/
def readSimpleKey (cs : List Char) : Option (String × List Char) :=
  match cs with
  | '"' :: rest => readBasic [] rest
  | '\x27' :: rest => readLiteral [] rest
  | _ =>
    match cs.takeWhile isKeyChar with
    | [] => none
    | ks => some (String.ofList ks, cs.dropWhile isKeyChar)

/-- Reads at most `fuel` parts of a dotted key. -/
def readKeyParts : (fuel : Nat) → List Char → Option (List String × List Char)
  | 0, _ => none
  | n + 1, cs => do
    let (part, rest) ← readSimpleKey (skipBlanks cs)
    match skipBlanks rest with
    | '.' :: rest => do
      let (parts, rest) ← readKeyParts n rest
      some (part :: parts, rest)
    | rest => some ([part], rest)

/-- Reads a dotted key with the blanks around it: the path to a table, and the key in it. -/
def readKey (cs : List Char) : Option ((List String × String) × List Char) := do
  let (parts, rest) ← readKeyParts (nestingLimit - 1) cs
  match parts.getLast? with
  | some key => some ((parts.dropLast, key), rest)
  | none => none

/-! ## Values -/

/-- The characters after a comment, whose mark is already taken. -/
def skipComment (cs : List Char) : List Char := cs.dropWhile isPlainChar

/-- The characters after blanks, line ends and comments. -/
def skipLines : (fuel : Nat) → List Char → List Char
  | 0, cs => cs
  | n + 1, cs =>
    match skipBlanks cs with
    | '#' :: rest =>
      let after := skipComment rest
      if (readNewline after).isSome then skipLines n after else '#' :: rest
    | cs =>
      match readNewline cs with
      | some rest => skipLines n rest
      | none => cs

/-- The characters after blanks, line ends and comments. -/
def skipAll (cs : List Char) : List Char := skipLines (cs.length + 1) cs

mutual

/-- Reads a value; `depth` is the number of arrays and inline tables around it. -/
def readValue : (fuel depth : Nat) → List Char → Option (Value × List Char)
  | 0, _, _ => none
  | n + 1, depth, cs =>
    match cs with
    | '[' :: rest =>
      if depth + 1 ≥ nestingLimit then none
      else (readItems n (depth + 1) [] (skipAll rest)).map fun (items, r) => (.array items, r)
    | '\x7b' :: rest =>
      if depth + 1 ≥ nestingLimit then none
      else
        match skipBlanks rest with
        | '\x7d' :: after => some (.table [], after)
        | cs => (readPairs n (depth + 1) [] cs).map fun (es, r) => (.table (entriesValue es), r)
    | _ => readScalar cs

/-- Reads the items of an array up to its end; `items` are those before, in reverse. -/
def readItems : (fuel depth : Nat) → List Value → List Char → Option (List Value × List Char)
  | 0, _, _, _ => none
  | n + 1, depth, items, cs =>
    match cs with
    | ']' :: rest => some (items.reverse, rest)
    | _ => do
      let (v, rest) ← readValue n depth cs
      match skipAll rest with
      | ',' :: rest => readItems n depth (v :: items) (skipAll rest)
      | ']' :: rest => some ((v :: items).reverse, rest)
      | _ => none

/-- Reads the pairs of an inline table up to its end. -/
def readPairs : (fuel depth : Nat) → Entries → List Char → Option (Entries × List Char)
  | 0, _, _, _ => none
  | n + 1, depth, entries, cs => do
    let ((path, key), rest) ← readKey cs
    match rest with
    | '=' :: rest =>
      let (v, rest) ← readValue n depth (skipBlanks rest)
      let entries ← addDotted false false key v path entries
      match skipBlanks rest with
      | ',' :: rest => readPairs n depth entries (skipBlanks rest)
      | '\x7d' :: rest => some (entries, rest)
      | _ => none
    | _ => none

end

/-! ## Documents -/

/-- The rest of a line after its content: blanks, perhaps a comment, and the line end. -/
def readLineEnd (cs : List Char) : Option (List Char) :=
  let after := match skipBlanks cs with
    | '#' :: rest => skipComment rest
    | cs => cs
  if after.isEmpty then some [] else readNewline after

/-- A document under construction: its entries, and the header that new pairs belong to. -/
structure Draft where
  entries : Entries := []
  header : List String := []

/-- Reads the line of a header `[key]`, the bracket already taken. -/
def Draft.readTableHeader (d : Draft) (cs : List Char) : Option (Draft × List Char) := do
  let ((path, key), rest) ← readKey cs
  match rest with
  | ']' :: rest =>
    let entries ← descend (openTable key) path d.entries
    some (⟨entries, path ++ [key]⟩, ← readLineEnd rest)
  | _ => none

/-- Reads the line of a header `[[key]]`, the brackets already taken. -/
def Draft.readElementHeader (d : Draft) (cs : List Char) : Option (Draft × List Char) := do
  let ((path, key), rest) ← readKey cs
  match rest with
  | ']' :: ']' :: rest =>
    let entries ← descend (openElement key) path d.entries
    some (⟨entries, path ++ [key]⟩, ← readLineEnd rest)
  | _ => none

/-- Reads the line of a pair. -/
def Draft.readPair (d : Draft) (cs : List Char) : Option (Draft × List Char) := do
  let ((path, key), rest) ← readKey cs
  match rest with
  | '=' :: rest =>
    let cs := skipBlanks rest
    let (v, rest) ← readValue (2 * cs.length + 2) 0 cs
    let entries ← descend (addDotted false false key v path) d.header d.entries
    some ({ d with entries }, ← readLineEnd rest)
  | _ => none

/-- Reads the lines of a document. -/
def Draft.readLines : (fuel : Nat) → Draft → List Char → Option Draft
  | 0, d, _ => some d
  | n + 1, d, cs =>
    match skipBlanks cs with
    | [] => some d
    | '#' :: rest => do readLines n d (← readLineEnd ('#' :: rest))
    | '[' :: '[' :: rest => do
      let (d, rest) ← d.readElementHeader rest
      readLines n d rest
    | '[' :: rest => do
      let (d, rest) ← d.readTableHeader rest
      readLines n d rest
    | cs =>
      match readNewline cs with
      | some rest => readLines n d rest
      | none => do
        let (d, rest) ← d.readPair cs
        readLines n d rest

/-- The text without a byte order mark. -/
def withoutMark : List Char → List Char
  | c :: cs => if c.toNat = 0xFEFF then cs else c :: cs
  | [] => []

/-- Reads a document: the entries of its top table. -/
def parse (text : String) : Option (List (String × Value)) :=
  let cs := withoutMark text.toList
  (Draft.readLines (cs.length + 1) {} cs).map fun d => entriesValue d.entries

end DocAudit.Toml
