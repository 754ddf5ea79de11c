import DocAudit.Text.Split

/-!
# File paths

A path is a text.  Its components are the parts between slashes: empty parts do not count, and
neither does a part `.` unless it begins a relative path.  Paths with the same components are
the same path, and paths are ordered by their components.
-/

namespace DocAudit.Path

inductive Component where
  /-- The root directory, first component of an absolute path. -/
  | root
  /-- A dot that begins a relative path. -/
  | current
  | parent
  | normal (name : String)
  deriving DecidableEq, Repr

/-- The parts of a path between slashes. -/
def parts (path : String) : List String := Text.split '/' path

def isAbsolute (path : String) : Bool := path.toList.head? = some '/'

/-- The component that a part stands for, if it counts. -/
def componentOf? (part : String) : Option Component :=
  if part = "" || part = "." then none
  else if part = ".." then some .parent
  else some (.normal part)

def components (path : String) : List Component :=
  let ps := parts path
  let inner := ps.filterMap componentOf?
  if isAbsolute path then .root :: inner
  else if ps.head? = some "." then .current :: inner
  else inner

/-- Whether a path is that of the working directory, written with dots and slashes. -/
def isHere (path : String) : Bool := components path = [.current]

/-- The components without the dot that begins a relative path. -/
def significant (path : String) : List Component := (components path).filter (· ≠ .current)

/-- The place of a component among the kinds of components. -/
def Component.rank : Component → Nat
  | .root => 0
  | .current => 1
  | .parent => 2
  | .normal _ => 3

/-- The order of components: the root, the dot, the parent, then names by their characters. -/
def Component.compare : Component → Component → Ordering
  | .normal a, .normal b => if a = b then .eq else if a < b then .lt else .gt
  | a, b => Ord.compare a.rank b.rank

/-- The order of component lists: the first difference decides, then the length. -/
def compareComponents : List Component → List Component → Ordering
  | [], [] => .eq
  | [], _ :: _ => .lt
  | _ :: _, [] => .gt
  | a :: as, b :: bs =>
    match a.compare b with
    | .eq => compareComponents as bs
    | o => o

/-- The order of paths. -/
def compare (a b : String) : Ordering := compareComponents (components a) (components b)

/-- The path without one leading `./`. -/
def stripDotSlash (path : String) : String :=
  match path.toList with
  | '.' :: '/' :: rest => String.ofList rest
  | _ => path

/-- The path of an entry of a directory. -/
def join (dir entry : String) : String :=
  if isAbsolute entry then entry
  else if dir = "" || dir.toList.getLast? = some '/' then dir ++ entry
  else dir ++ "/" ++ entry

/-- The last component of a path, unless it is the root, a dot or a parent. -/
def fileName? (path : String) : Option String :=
  match (components path).getLast? with
  | some (.normal name) => some name
  | _ => none

/-- The part of the file name after its last dot.  A dot that begins the name does not count. -/
def extension? (path : String) : Option String := do
  let name ← fileName? path
  match name.toList.reverse.span (· ≠ '.') with
  | (_, []) => none
  | (_, [_]) => none
  | (ext, _ :: _) => some (String.ofList ext.reverse)

/-- The parts of a path in reverse without those at the end that do not count. -/
def trimBack : List String → List String
  | p :: q :: rest => if p = "" || p = "." then trimBack (q :: rest) else p :: q :: rest
  | ps => ps

/-- The path with the given parts in reverse. -/
def ofPartsBack (back : List String) : String :=
  if back = [""] then "/" else "/".intercalate back.reverse

/-- The path without its last component.  The root has no parent, and neither has the empty
path. -/
def parent? (path : String) : Option String :=
  match trimBack (parts path).reverse with
  | [] => none
  | [part] => if part = "" then none else some ""
  | _ :: rest => some (ofPartsBack (trimBack rest))

/-- The path and the next `n` paths around it. -/
def ancestorsFrom : (n : Nat) → String → List String
  | 0, path => [path]
  | n + 1, path =>
    match parent? path with
    | some dir => path :: ancestorsFrom n dir
    | none => [path]

/-- The path and all paths around it, each the parent of the one before. -/
def ancestors (path : String) : List String := ancestorsFrom (parts path).length path

end DocAudit.Path
