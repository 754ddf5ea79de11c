import DocAudit.Toml.Scalar

/-!
# TOML documents

A document is built up entry by entry.  `Node` remembers how each table came about, because that
decides what may still be added to it: a table that a header or an inline table has defined is
complete for dotted keys, and one that dotted keys have made cannot be opened by a header.
-/

namespace DocAudit.Toml

/-- An entry of a document under construction. -/
inductive Node where
  | leaf (v : Value)
  /-- A table.  `implicit` says that no header has defined it yet, `dotted` that dotted keys have
  made it. -/
  | table (implicit dotted : Bool) (entries : List (String × Node))
  /-- An array of tables; new entries go to the last one. -/
  | tables (elements : List (List (String × Node)))

/-- The entries of a table under construction. -/
abbrev Entries := List (String × Node)

def Entries.get? (key : String) (entries : Entries) : Option Node :=
  (entries.find? (·.1 = key)).map (·.2)

/-- The entries with the node under a key replaced, or added at the end. -/
def Entries.set (key : String) (node : Node) (entries : Entries) : Entries :=
  if entries.any (·.1 = key) then entries.map fun e => if e.1 = key then (key, node) else e
  else entries ++ [(key, node)]

/-- The entries of an array of tables after a change to its last element. -/
def changeLast (f : Entries → Option Entries) : List Entries → Option (List Entries)
  | [] => none
  | [e] => (f e).map ([·])
  | e :: es => (changeLast f es).map (e :: ·)

/-- Adds a value under a dotted key: the tables of `path`, then `key`.  `dotted` tells whether the
table is one that dotted keys have made, `nested` whether it was reached through a dotted key;
both or neither must hold where the value is added. -/
def addDotted (nested dotted : Bool) (key : String) (value : Value) :
    (path : List String) → Entries → Option Entries
  | [], entries =>
    if nested ≠ dotted || (Entries.get? key entries).isSome then none
    else some (entries ++ [(key, .leaf value)])
  | step :: path, entries =>
    match Entries.get? step entries with
    | none => do
      let inner ← addDotted true true key value path []
      some (entries ++ [(step, .table true true inner)])
    | some (.leaf _) => none
    | some (.tables elements) => do
      let changed ← changeLast (addDotted true false key value path) elements
      some (entries.set step (.tables changed))
    | some (.table implicit dotted inner) =>
      if !implicit then none
      else do
        let inner ← addDotted true dotted key value path inner
        some (entries.set step (.table implicit dotted inner))

/-- Changes the table at the end of a path of headers.  Missing tables are made on the way. -/
def descend (f : Entries → Option Entries) : (path : List String) → Entries → Option Entries
  | [], entries => f entries
  | step :: path, entries =>
    match Entries.get? step entries with
    | none => do
      let inner ← descend f path []
      some (entries ++ [(step, .table true false inner)])
    | some (.leaf _) => none
    | some (.tables elements) => do
      let changed ← changeLast (descend f path) elements
      some (entries.set step (.tables changed))
    | some (.table implicit dotted inner) => do
      let inner ← descend f path inner
      some (entries.set step (.table implicit dotted inner))

/-- Opens the table of a header `[… key]`.  A table that was there only for the tables in it comes
after all others from now on. -/
def openTable (key : String) (entries : Entries) : Option Entries :=
  match Entries.get? key entries with
  | none => some (entries ++ [(key, .table false false [])])
  | some (.table true false inner) =>
    some (entries.filter (·.1 ≠ key) ++ [(key, .table false false inner)])
  | some _ => none

/-- Opens one more table for a header `[[… key]]`. -/
def openElement (key : String) (entries : Entries) : Option Entries :=
  match Entries.get? key entries with
  | none => some (entries ++ [(key, .tables [[]])])
  | some (.tables elements) => some (entries.set key (.tables (elements ++ [[]])))
  | some _ => none

mutual

/-- The value of a finished node. -/
def Node.toValue : Node → Value
  | .leaf v => v
  | .table _ _ entries => .table (entriesValue entries)
  | .tables elements => .array (elementsValue elements)

/-- The values of finished entries. -/
def entriesValue : List (String × Node) → List (String × Value)
  | [] => []
  | (k, n) :: rest => (k, n.toValue) :: entriesValue rest

/-- The values of the tables of an array. -/
def elementsValue : List (List (String × Node)) → List Value
  | [] => []
  | e :: rest => .table (entriesValue e) :: elementsValue rest

end

end DocAudit.Toml
