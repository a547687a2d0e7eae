import RowScript.Attempt

/-!
# Files

`Store` is what a run needs of a file system: reading whole files, and writing to a target bit by bit.
Any of it may fail. `Files` is a file system in memory, with the standard output beside it.

* Directories of `Files` are the ones in which there is something; none can be made.
* `Files.locate` follows a path name by name, so every name but the last must be a directory.
* `Files.learn` takes over what is known of a path in another file system.
-/

namespace RowScript

/-- Why a file cannot be used. -/
inductive FileFault
  | missing
  | isDirectory
  | notDirectory
  | badName
  | notText
  | other (detail : String)
  deriving Repr, DecidableEq, Inhabited

namespace FileFault

def message : FileFault → String
  | missing => "No such file or directory (os error 2)"
  | isDirectory => "Is a directory (os error 21)"
  | notDirectory => "Not a directory (os error 20)"
  | badName => "file name contained an unexpected NUL byte"
  | notText => "stream did not contain valid UTF-8"
  | other detail => detail

/-- The file can be opened, and only reading from it fails. -/
def isLate : FileFault → Bool
  | isDirectory | notText => true
  | _ => false

end FileFault

/-- Where output goes. -/
inductive Target
  | standard
  | file (path : String)
  deriving Repr, DecidableEq, Inhabited

/-- Files that are kept in a state `φ`. -/
structure Store (φ : Type) where
  /-- The contents of a file. -/
  read : φ → String → Except FileFault ByteArray
  /-- Make a target ready for writing. A file is there afterwards and is empty. -/
  create : Target → Attempt φ FileFault Unit
  /-- Write text at the end of a target. -/
  append : Target → String → Attempt φ FileFault Unit
  /-- Bring to a target what was written to it and is still under way. -/
  flush : Target → Attempt φ FileFault Unit

/-- The names on the way to a file. -/
abbrev Location := List String

/-- What can be at a location. -/
inductive Node
  | file (data : ByteArray)
  | directory
  /-- Something that cannot be used. -/
  | blocked (fault : FileFault)
  deriving Inhabited

/-- A file system in memory. -/
structure Files where
  nodes : List (Location × Node) := []
  /-- What was written to the standard output. -/
  printed : String := ""
  deriving Inhabited

namespace Files

/-- What there is at a location. -/
def at? (f : Files) (l : Location) : Option Node :=
  if l.isEmpty then some .directory
  else
    match f.nodes.lookup l with
    | some node => some node
    | none => if f.nodes.any fun (other, _) => l.isPrefixOf other then some .directory else none

/-- Go from a location to a name in it. -/
def enter (f : Files) (l : Location) (name : String) : Except FileFault Location :=
  match f.at? l with
  | none => .error .missing
  | some (.file _) => .error .notDirectory
  | some (.blocked fault) => .error fault
  | some .directory =>
    if name.isEmpty || name == "." then .ok l
    else if name == ".." then if l.isEmpty then .error .missing else .ok l.dropLast
    else .ok (l ++ [name])

/-- Follow a path. What it leads to need not be there. -/
def locate (f : Files) (path : String) : Except FileFault Location :=
  if path.isEmpty then .error .missing
  else if path.contains '\x00' then .error .badName
  else
    match path.splitOn "/" with
    | "" :: names => names.foldlM f.enter ["/"]
    | names => names.foldlM f.enter []

def setNode : List (Location × Node) → Location → Node → List (Location × Node)
  | [], l, node => [(l, node)]
  | (other, old) :: rest, l, node =>
    if other == l then (l, node) :: rest else (other, old) :: setNode rest l node

/-- Put something at a location. -/
def set (f : Files) (l : Location) (node : Node) : Files := { f with nodes := setNode f.nodes l node }

def read (f : Files) (path : String) : Except FileFault ByteArray := do
  let l ← f.locate path
  match f.at? l with
  | some (.file data) => .ok data
  | some .directory => .error .isDirectory
  | some (.blocked fault) => .error fault
  | none => .error .missing

/-- The location at which a file can be written. A path with a slash at its end is for directories. -/
def writable (f : Files) (path : String) : Except FileFault Location := do
  let l ← f.locate (String.ofList (path.toList.reverse.dropWhile (· == '/')).reverse)
  if path.toList.getLast? = some '/' then .error .isDirectory
  else
    match f.at? l with
    | some .directory => .error .isDirectory
    | some (.blocked fault) => .error fault
    | some (.file _) | none => .ok l

def create (f : Files) (path : String) : Except FileFault Files := do
  return f.set (← f.writable path) (.file .empty)

def append (f : Files) (path text : String) : Except FileFault Files := do
  return f.set (← f.writable path) (.file ((← f.read path) ++ text.toUTF8))

/-- A change that keeps the files as they are if it fails. -/
def changing (change : Files → Except FileFault Files) : Attempt Files FileFault Unit := fun f =>
  match change f with
  | .ok changed => (.ok (), changed)
  | .error fault => (.error fault, f)

/-- The file system in memory as a store. -/
def store : Store Files where
  read := read
  create
    | .standard => pure ()
    | .file path => changing (create · path)
  append
    | .standard, text => .update fun f => { f with printed := f.printed ++ text }
    | .file path, text => changing (append · path text)
  flush _ := pure ()

/-- The location that names lead to from another one, and the directories on the way. -/
def wayFrom (l : Location) : List String → List Location × Location
  | [] => ([], l)
  | name :: rest =>
    let next :=
      if name.isEmpty || name == "." then l else if name == ".." then l.dropLast else l ++ [name]
    let (way, last) := wayFrom next rest
    (l :: way, last)

/-- Take over that there is a path to some place, and what is there. -/
def learn (f : Files) (path : String) (node : Option Node) : Files :=
  let (way, last) := match path.splitOn "/" with
    | "" :: names => wayFrom ["/"] names
    | names => wayFrom [] names
  let f := way.foldl (fun f l => if (f.at? l).isSome then f else f.set l .directory) f
  match node with
  | some node => f.set last node
  | none => f

end Files

end RowScript
