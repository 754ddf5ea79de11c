import DocAudit.Builtin.Undocumented

/-!
# Order of tags

Requires the tags of an object to come in a given order.  Tags of other names may stand anywhere,
and several tags of one name may follow each other.
-/

namespace DocAudit.TagOrder

def name : String := "Tags/Order"

def defaultOrder : List String :=
  ["param", "option", "yield", "yieldparam", "yieldreturn", "return", "raise", "see", "example",
   "note", "todo"]

def enforcedOrder (s : Settings) : List String :=
  ((s.option? "enforced_order").bind (·.asTexts?)).getD defaultOrder

/-- The names without those equal to the name right before them. -/
def collapse : List String → List String
  | [] => []
  | [a] => [a]
  | a :: b :: rest => if a = b then collapse (b :: rest) else a :: collapse (b :: rest)

/-- The names of the tags that the order is about, groups of equal ones as one. -/
def actual (enforced : List String) (tags : List Tag) : List String :=
  collapse ((tags.map (·.name)).filter enforced.contains)

/-- The names of the order that occur among the tags. -/
def expected (enforced : List String) (tags : List Tag) : List String :=
  enforced.filter fun n => tags.any (·.name = n)

/-- The second line of a report. -/
def invalidStatus : String := "invalid"

def reportLines (o : CodeObject) (expected actual : List String) : List String :=
  let file := o.file.getD ""
  [s!"{file}:{o.line.getD 0}", invalidStatus, o.path, ",".intercalate expected,
   ",".intercalate actual]

/-- Writes a report on an object whose tags are out of order. -/
def query (o : CodeObject) (s : Settings) : Answer :=
  let enforced := enforcedOrder s
  let found := actual enforced o.tags
  let wanted := expected enforced o.tags
  if found = wanted then {} else { lines := reportLines o wanted found }

/-- The pattern of the first line of a report. -/
def patterns : PatternSet := .builtin [(PatternSet.general, r"^.+:\d+$")]

/-- The record of a report. -/
def build : List String → Option Record
  | [header, status, title, expected, actual] =>
    if status = invalidStatus then do
      let (location, line) ← Text.splitLast? ':' header.toList
      let line ← Text.readCountChars line
      let record : Record :=
        { message := some title, location := some (String.ofList location), line := some line }
      some ((record.withField "expected" expected).withField "actual" actual)
    else none
  | _ => none

def layout : Output.Block := .ofLength patterns 5 build

def parse (text : String) : List Record := layout.read text

/-- The tags of a field, as they are written in documentation. -/
def tagList (r : Record) (key : String) : String :=
  let names := (Text.split ',' ((r.field? key).getD "")).filter (· ≠ "")
  ", ".intercalate (names.map fun n => s!"@{n}")

def messageOf (r : Record) : String :=
  let object := r.message.getD ""
  let wanted := tagList r "expected"
  let found := tagList r "actual"
  s!"Tags of `{object}` are out of order: expected {wanted}, found {found}"

/-- Requires tags to come in a given order. -/
def validator : Validator where
  name := name
  description := "Requires documentation tags to appear in the configured order"
  defaultVisibility := .all
  strategy := .inProcess
  query := fun o s => (query o s).write
  parse := parse
  kind :=
    { validatorName := name
      defaultSeverity := some .convention
      offenseName := "InvalidTagsOrder"
      message := messageOf }

end DocAudit.TagOrder
