import DocAudit.Json.Decode
import DocAudit.Json.Reader
import DocAudit.Registry.Object

/-!
# Code objects in JSON

The encoder writes every field; the decoder fills in the defaults of missing ones.
-/

namespace DocAudit

open Json

def Json.ofText (s : String) : Json := .str (some s)

def Json.ofNat (n : Nat) : Json := .number (.ofNat n)

/-- An optional value, `null` if there is none. -/
def Json.ofOption {α : Type} (f : α → Json) : Option α → Json
  | some a => f a
  | none => .null

namespace Tag

/-- The fields of a tag in order. -/
def keys : List String := ["name", "param_name", "types", "text"]

def toJson (t : Tag) : Json :=
  .obj [(some "name", .ofText t.name), (some "param_name", .ofOption .ofText t.param),
    (some "types", .arr (t.types.map .ofText)), (some "text", .ofText t.text)]

def ofJson? (v : Json) : Option Tag := do
  match ← fields? keys v with
  | (_, [name, param, types, text]) =>
    some
      { name := ← required text? name
        param := ← defaulted none (nullable? text?) param
        types := ← defaulted [] (list? text?) types
        text := ← defaulted "" text? text }
  | _ => none

end Tag

namespace CodeObject

/-- The fields of a code object in order. -/
def keys : List String := ["path", "kind", "visibility", "file", "line", "docstring", "tags"]

def toJson (o : CodeObject) : Json :=
  .obj [(some "path", .ofText o.path), (some "kind", .ofText o.kind.name),
    (some "visibility", .ofText o.access.name), (some "file", .ofOption .ofText o.file),
    (some "line", .ofOption .ofNat o.line), (some "docstring", .ofText o.docstring),
    (some "tags", .arr (o.tags.map Tag.toJson))]

def ofJson? (v : Json) : Option CodeObject := do
  match ← fields? keys v with
  | (_, [path, kind, access, file, line, docstring, tags]) =>
    some
      { path := ← required text? path
        kind := ← required (fun v => (variant? v).bind ObjectKind.ofName?) kind
        access := ← defaulted .publicAccess (fun v => (variant? v).bind Access.ofName?) access
        file := ← defaulted none (nullable? text?) file
        line := ← defaulted none (nullable? count?) line
        docstring := ← defaulted "" text? docstring
        tags := ← defaulted [] (list? Tag.ofJson?) tags }
  | _ => none

end CodeObject

end DocAudit
