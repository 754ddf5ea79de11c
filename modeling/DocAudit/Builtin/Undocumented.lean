import DocAudit.Output.Layout
import DocAudit.Text.Split
import DocAudit.Validator

/-!
# Undocumented objects

Reports objects without documentation.  Methods can be exempted by name or by pattern; by default
`initialize` is.
-/

namespace DocAudit

/-- The patterns of a built-in validator.  Their texts are known to be patterns. -/
def PatternSet.builtin (texts : List (String × String)) : PatternSet :=
  (PatternSet.compile texts).toOption.getD {}

namespace Undocumented

def name : String := "Documentation/UndocumentedObjects"

/-- The methods that need no documentation if nothing is configured. -/
def defaultExcluded : List String := ["initialize"]

/-- The configured names and patterns of methods that need no documentation. -/
def excludedMethods (s : Settings) : List String :=
  ((s.option? "excluded_methods").bind (·.asTexts?)).getD defaultExcluded

/-- The text between two slashes, if the entry is written as a pattern. -/
def patternText? (entry : String) : Option String :=
  match entry.toList with
  | '/' :: rest =>
    match rest.reverse with
    | '/' :: inner => some (String.ofList inner.reverse)
    | _ => none
  | _ => none

def entryCovers (method entry : String) : Except QueryError Bool :=
  match patternText? entry with
  | some text =>
    match Pattern.compile text with
    | .ok p => .ok (p.isMatch method)
    | .error e => .error (.runtime s!"invalid excluded_methods entry {entry}: {e.message}")
  | none => .ok (entry = method)

/-- Whether one of the entries covers the method.  Entries are tried in order; a pattern that cannot
be read is an error unless an entry before it covers the method. -/
def isExcluded (method : String) : List String → Except QueryError Bool
  | [] => .ok false
  | entry :: entries =>
    match entryCovers method entry with
    | .error e => .error e
    | .ok true => .ok true
    | .ok false => isExcluded method entries

/-- The part of an object's path after the last `#` or `.`. -/
def methodName (path : String) : String :=
  String.ofList (Text.afterLast (fun c => c = '#' || c = '.') path.toList)

def reportLine (o : CodeObject) : String :=
  let file := o.file.getD ""
  s!"{file}:{o.line.getD 0}: {o.path}"

/-- Writes one line for an object without documentation that is not exempted. -/
def query (o : CodeObject) (s : Settings) : Answer :=
  if o.isDocumented then {}
  else if o.kind = .methodDef then
    match isExcluded (methodName o.path) (excludedMethods s) with
    | .error e => { error := some e }
    | .ok true => { log := [.debug s!"{name}: {o.path} is excluded"] }
    | .ok false => { lines := [reportLine o] }
  else { lines := [reportLine o] }

def patterns : PatternSet :=
  .builtin
    [(PatternSet.general, r"^.+?:\d+: .+$"), (PatternSet.location, r"^(.+?):\d+: "),
     (PatternSet.line, r"^.+?:(\d+): "), (PatternSet.message, r"^.+?:\d+: (.+)$")]

def parse (text : String) : List Record := Output.oneLine patterns text

def messageOf (r : Record) : String :=
  let object := r.message.getD ""
  s!"Documentation required for `{object}`"

/-- Reports objects without documentation. -/
def validator : Validator where
  name := name
  description := "Reports classes, modules, methods and constants without documentation"
  strategy := .inProcess
  query := fun o s => (query o s).write
  parse := parse
  kind :=
    { validatorName := name
      defaultSeverity := some .warning
      offenseName := "UndocumentedObject"
      message := messageOf }

end Undocumented

end DocAudit
