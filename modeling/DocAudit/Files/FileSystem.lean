import DocAudit.Path

/-!
# File systems

A file system is a tree of directories with texts as files, seen from a working directory.  Paths
are looked up one part at a time: every part but the last must lead to a directory, `..` goes one
directory up, and a slash at the end asks for a directory.  Names and paths have greatest lengths.

* `FileSystem.lookup` finds what a path leads to.
* `FileSystem.read` and `FileSystem.write` are the content of a file before and after a change.
-/

namespace DocAudit.Files

/-- A file with its content, or a directory with its entries. -/
inductive Entry where
  | file (content : String)
  | dir (entries : List (String × Entry))

namespace Entry

def isFile : Entry → Bool
  | file _ => true
  | dir _ => false

def isDir : Entry → Bool
  | file _ => false
  | dir _ => true

def child? (e : Entry) (name : String) : Option Entry :=
  match e with
  | file _ => none
  | dir entries => (entries.find? (·.1 = name)).map (·.2)

/-- The entry below `e` that the names lead to. -/
def descend? (e : Entry) : List String → Option Entry
  | [] => some e
  | name :: names => (e.child? name).bind (·.descend? names)

/-- The entries with `entry` under the given name, in its place if there is one already. -/
def withChild (name : String) (entry : Entry) : List (String × Entry) → List (String × Entry)
  | [] => [(name, entry)]
  | (n, e) :: rest => if n = name then (n, entry) :: rest else (n, e) :: withChild name entry rest

/-- The directory with `entry` at the place that the names lead to.  Directories on the way are
made where there are none. -/
def graft (entry : Entry) : List String → Entry → Entry
  | [], _ => entry
  | name :: names, e =>
    let entries := match e with
      | dir entries => entries
      | file _ => []
    dir (withChild name (graft entry names ((e.child? name).getD (dir []))) entries)

end Entry

/-- Why a file cannot be used. -/
inductive Fault where
  | notFound
  | permissionDenied
  | notADirectory
  | isADirectory
  | nameTooLong
  deriving DecidableEq, Repr

/-- The description of a fault, with the number that the system gives it. -/
def Fault.message : Fault → String
  | .notFound => "No such file or directory (os error 2)"
  | .permissionDenied => "Permission denied (os error 13)"
  | .notADirectory => "Not a directory (os error 20)"
  | .isADirectory => "Is a directory (os error 21)"
  | .nameTooLong => "File name too long (os error 36)"

/-- The greatest length of the name of an entry, in bytes. -/
def nameLimit : Nat := 255

/-- The greatest length of a path, in bytes. -/
def pathLimit : Nat := 4095

/-- The absolute path of the names from the root directory on. -/
def absolutePath (names : List String) : String := "/" ++ "/".intercalate names

/-- A tree of files and the working directory, given by the names from the root on. -/
structure FileSystem where
  root : Entry
  workingDir : List String

namespace FileSystem

/-- What the names from the root on lead to. -/
def at? (fs : FileSystem) (names : List String) : Option Entry := fs.root.descend? names

/-- Follows one part of a path from the directory with the given names. -/
def follow (fs : FileSystem) (names : List String) (part : String) : Except Fault (List String) :=
  match fs.at? names with
  | none => .error .notFound
  | some (.file _) => .error .notADirectory
  | some (.dir entries) =>
    if part = "" || part = "." then .ok names
    else if part = ".." then .ok names.dropLast
    else if nameLimit < part.utf8ByteSize then .error .nameTooLong
    else if entries.any (·.1 = part) then .ok (names ++ [part])
    else .error .notFound

/-- The names from the root on that a path leads to. -/
def resolve (fs : FileSystem) (path : String) : Except Fault (List String) :=
  if path = "" then .error .notFound
  else if pathLimit < path.utf8ByteSize then .error .nameTooLong
  else (Path.parts path).foldlM fs.follow (if Path.isAbsolute path then [] else fs.workingDir)

/-- What a path leads to. -/
def lookup (fs : FileSystem) (path : String) : Except Fault Entry := do
  match fs.at? (← fs.resolve path) with
  | some entry => .ok entry
  | none => .error .notFound

def isFile (fs : FileSystem) (path : String) : Bool :=
  match fs.lookup path with
  | .ok entry => entry.isFile
  | .error _ => false

def isDir (fs : FileSystem) (path : String) : Bool :=
  match fs.lookup path with
  | .ok entry => entry.isDir
  | .error _ => false

def contains (fs : FileSystem) (path : String) : Bool := (fs.lookup path).isOk

def read (fs : FileSystem) (path : String) : Except Fault String := do
  match ← fs.lookup path with
  | .file content => .ok content
  | .dir _ => .error .isADirectory

/-- The absolute path of what a path leads to. -/
def canonical? (fs : FileSystem) (path : String) : Option String :=
  match fs.resolve path with
  | .ok names => some (absolutePath names)
  | .error _ => none

/-- The file system after the content has been written to an entry of the working directory. -/
def write (fs : FileSystem) (name content : String) : Except Fault FileSystem :=
  match fs.at? (fs.workingDir ++ [name]) with
  | some (.dir _) => .error .isADirectory
  | _ => .ok { fs with root := Entry.graft (.file content) (fs.workingDir ++ [name]) fs.root }

end FileSystem

end DocAudit.Files
