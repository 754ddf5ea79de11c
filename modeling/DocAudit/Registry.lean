import DocAudit.Glob
import DocAudit.Log
import DocAudit.Path
import DocAudit.Registry.Codec
import DocAudit.Text.Quoted

/-!
# The registry of code objects

Validators find their objects by a `Lookup`, of whatever kind it is.  The one at hand is a
`Registry`, which holds the code objects of a code base in order.  `Registry.objectsFor` selects
those that a validator looks at: visible, not excluded by a glob, and in one of the selected files
if files are selected.
-/

namespace DocAudit

/-- Where validators find their objects.  Both parts are functions of the visibility, the exclude
patterns and the selected files, if files are selected. -/
structure Lookup where
  objectsFor : Visibility → List String → Option (List String) → List CodeObject
  /-- The log entries that looking the objects up leads to. -/
  log : Visibility → List String → Option (List String) → Log := fun _ _ _ => []

structure Registry where
  objects : List CodeObject := []
  deriving DecidableEq, Repr

namespace Registry

/-- The registry written in a JSON text, if the text holds one. -/
def ofText? (text : String) : Option Registry := do
  let v ← Json.parse text
  some ⟨← Json.list? CodeObject.ofJson? v⟩

def size (r : Registry) : Nat := r.objects.length

def isEmpty (r : Registry) : Bool := r.objects.isEmpty

/-! ## Selection -/

/-- The globs among the exclude patterns; texts that are none exclude nothing. -/
def excludeGlobs (excludes : List String) : List Glob :=
  excludes.filterMap fun p => (Glob.compile p).toOption

/-- The log entries for exclude patterns that are no globs. -/
def excludeLog (excludes : List String) : Log :=
  excludes.filterMap fun p =>
    match Glob.compile p with
    | .ok _ => none
    | .error e => some (.debug s!"Ignoring invalid exclude pattern {Text.quoted p}: {e.message}")

/-- Whether a glob matches the file, a leading `./` left out. -/
def isExcluded (globs : List Glob) (file : String) : Bool :=
  globs.any (·.isMatch (Path.stripDotSlash file))

/-- Whether the file is among the selected ones.  An absolute file must be equal to a selected
path; a relative file selects every path that ends in its components. -/
def isSelected (file : String) (selection : List String) : Bool :=
  if Path.isAbsolute file then selection.any fun s => Path.components s = Path.components file
  else
    let wanted := Path.significant file
    !wanted.isEmpty && selection.any fun s => wanted.isSuffixOf (Path.significant s)

/-- Whether the object is in one of the selected files, if files are selected. -/
def inSelection (selection : Option (List String)) (o : CodeObject) : Bool :=
  match selection, o.file with
  | none, _ => true
  | some paths, some file => isSelected file paths
  | some _, none => false

/-- The objects that are visible, not excluded, and selected. -/
def objectsFor (r : Registry) (visibility : Visibility) (excludes : List String)
    (selection : Option (List String)) : List CodeObject :=
  let globs := excludeGlobs excludes
  r.objects.filter fun o =>
    o.isVisibleAt visibility && !o.file.any (isExcluded globs) && inSelection selection o

def lookup (r : Registry) : Lookup where
  objectsFor := r.objectsFor
  log := fun _ excludes _ => excludeLog excludes

instance : Coe Registry Lookup := ⟨lookup⟩

end Registry

end DocAudit
