import DocAudit.Toml.Scalar

/-!
# Dates as tables

A date or time can stand where a table is expected: it is a table with the one entry `dateKey`,
which holds its text.  The other way round, a table that starts with this entry is a date or time.

* `Value.asEntries?` sees a value as a table.
* `Value.restoreDates?` puts dates and times in the place of the tables that stand for them.
-/

namespace DocAudit.Toml

/-- The key of the entry that holds the text of a date or time. -/
def dateKey : String := "$__toml_private_datetime"

/-- Reads a time of day; the hour may be 24. -/
def readLenientTime (cs : List Char) : Option (Time × List Char) := do
  let (hour, cs) ← readTwo 0 24 cs
  let cs ← expect ':' cs
  let (minute, cs) ← readTwo 0 59 cs
  let cs ← expect ':' cs
  let (second, cs) ← readTwo 0 60 cs
  let (nanosecond, cs) ← readNanoseconds cs
  some (⟨hour, minute, second, nanosecond⟩, cs)

/-- Reads an offset of at most one day up to the end of the text. -/
def readLenientOffset : List Char → Option (Option Offset)
  | [] => some none
  | c :: rest =>
    if c = 'Z' || c = 'z' then if rest.isEmpty then some (some .utc) else none
    else if c = '+' || c = '-' then do
      let (hours, cs) ← readFixed 2 0 rest
      let cs ← expect ':' cs
      let (minutes, cs) ← readFixed 2 0 cs
      let n := hours * 60 + minutes
      if n ≤ 24 * 60 && cs.isEmpty then
        some (some (.minutes (if c = '-' then -(n : Int) else n)))
      else none
    else none

/-- Reads the text of a date, a time, or both. -/
def DateTime.ofChars? (cs : List Char) : Option DateTime :=
  if cs[2]? = some ':' then do
    let (time, rest) ← readLenientTime cs
    if rest.isEmpty then some ⟨none, some time, none⟩ else none
  else do
    let (date, rest) ← readDate cs
    match rest with
    | [] => some ⟨some date, none, none⟩
    | c :: rest =>
      if c = 'T' || c = 't' || c = ' ' then
        let (time, rest) ← readLenientTime rest
        some ⟨some date, some time, ← readLenientOffset rest⟩
      else none

namespace Value

/-- The entries of a value that is a table, or a date or time in place of one. -/
def asEntries? : Value → Option (List (String × Value))
  | table entries => some entries
  | datetime d => some [(dateKey, string d.display)]
  | _ => none

/-- The date or time that a table stands for: none if it is an ordinary table, and an inner none if
it should stand for one and does not. -/
def dateOf? : List (String × Value) → Option (Option DateTime)
  | (key, value) :: rest =>
    if key = dateKey then
      match value, rest with
      | string s, [] => some (DateTime.ofChars? s.toList)
      | _, _ => some none
    else none
  | [] => none

mutual

/-- The value with dates and times in the place of the tables that stand for them. -/
def restoreDates? : Value → Option Value
  | array items => (restoreItems? items).map array
  | table entries =>
    match dateOf? entries with
    | some found => found.map datetime
    | none => (restoreEntries? entries).map table
  | v => some v

/-- The items with dates and times in the place of the tables that stand for them. -/
def restoreItems? : List Value → Option (List Value)
  | [] => some []
  | v :: vs => do some ((← restoreDates? v) :: (← restoreItems? vs))

/-- The entries with dates and times in the place of the tables that stand for them. -/
def restoreEntries? : List (String × Value) → Option (List (String × Value))
  | [] => some []
  | (key, v) :: rest => do some ((key, ← restoreDates? v) :: (← restoreEntries? rest))

end

end Value

end DocAudit.Toml
