import DocAudit.Text.Blank
import DocAudit.Visibility

/-!
# Code objects

The things in a code base that can carry documentation: modules, classes, methods, constants and
attributes, with their docstrings and tags.
-/

namespace DocAudit

inductive ObjectKind where
  | moduleDef
  | classDef
  | methodDef
  | constantDef
  | attributeDef
  deriving DecidableEq, Repr

/-- Who may use a code object. -/
inductive Access where
  | publicAccess
  | protectedAccess
  | privateAccess
  deriving DecidableEq, Repr

/-- A documentation tag such as `@param`. -/
structure Tag where
  name : String
  /-- The parameter that the tag is about. -/
  param : Option String := none
  types : List String := []
  text : String := ""
  deriving DecidableEq, Repr

/-- Something in a code base that can carry documentation. -/
structure CodeObject where
  /-- The qualified name, such as `Widget#spin`. -/
  path : String
  kind : ObjectKind
  access : Access := .publicAccess
  file : Option String := none
  line : Option Nat := none
  docstring : String := ""
  tags : List Tag := []
  deriving DecidableEq, Repr

namespace ObjectKind

def name : ObjectKind → String
  | moduleDef => "module"
  | classDef => "class"
  | methodDef => "method"
  | constantDef => "constant"
  | attributeDef => "attribute"

def ofName? : String → Option ObjectKind
  | "module" => some moduleDef
  | "class" => some classDef
  | "method" => some methodDef
  | "constant" => some constantDef
  | "attribute" => some attributeDef
  | _ => none

end ObjectKind

namespace Access

def name : Access → String
  | publicAccess => "public"
  | protectedAccess => "protected"
  | privateAccess => "private"

def ofName? : String → Option Access
  | "public" => some publicAccess
  | "protected" => some protectedAccess
  | "private" => some privateAccess
  | _ => none

end Access

namespace CodeObject

/-- Whether the object has a docstring that is not blank, or a tag. -/
def isDocumented (o : CodeObject) : Bool := Text.trim o.docstring ≠ "" || !o.tags.isEmpty

/-- Whether the object is seen at a visibility. -/
def isVisibleAt (o : CodeObject) : Visibility → Bool
  | .all => true
  | .publicOnly => o.access = .publicAccess

def tagsNamed (o : CodeObject) (name : String) : List Tag := o.tags.filter (·.name = name)

def locatedAt (o : CodeObject) (file : String) (line : Nat) : CodeObject :=
  { o with file := some file, line := some line }

def withTag (o : CodeObject) (tag : Tag) : CodeObject := { o with tags := o.tags ++ [tag] }

end CodeObject

end DocAudit
