/-
  BoardRelay.Disk.Basic
  ────────────────────────────────
  A disk: directories and files with their content, and the operations on
  them that the relay uses.  An operation that fails leaves the disk as it
  was.
-/
import BoardRelay.Disk.Fault
import BoardRelay.Disk.Path
import BoardRelay.Text.Utf8

namespace BoardRelay

namespace Disk

/-- What stands at a place. -/
inductive Node where
  | directory
  | file (content : Text.Bytes)
  deriving Repr, DecidableEq

/-- A place: the names that lead to it from the root. -/
abbrev Place := List String

/-- The longest name that a directory takes, in bytes. -/
def maxNameLength : Nat :=
  255

end Disk

/-- The content of a disk, and the directory that relative paths start from. -/
structure Disk where
  nodes : List (Disk.Place × Disk.Node)
  current : Disk.Place
  deriving Repr, DecidableEq

namespace Disk

/-- The disk with the root only. -/
def empty : Disk :=
  ⟨[], []⟩

/-! ## §1. Places -/

/-- What stands at a place; the root is always a directory. -/
def node? (disk : Disk) (place : Place) : Option Node :=
  if place.isEmpty then some .directory else disk.nodes.lookup place

/-- The disk with a node at a place. -/
def put (disk : Disk) (place : Place) (node : Node) : Disk :=
  { disk with nodes := (place, node) :: disk.nodes.filter fun entry => entry.1 != place }

/-- The disk without the node at a place. -/
def erase (disk : Disk) (place : Place) : Disk :=
  { disk with nodes := disk.nodes.filter fun entry => entry.1 != place }

/-- The disk without the node at a place and without all that is below it. -/
def eraseAll (disk : Disk) (place : Place) : Disk :=
  { disk with nodes := disk.nodes.filter fun entry => !place.isPrefixOf entry.1 }

/-- Takes the steps from a place.  Every place on the way must be a
directory. -/
def walk (disk : Disk) : Place → List Step → Except Fault Place
  | place, [] => .ok place
  | place, step :: rest =>
    match disk.node? place with
    | none => .error .notFound
    | some (.file _) => .error .notDirectory
    | some .directory =>
      match step with
      | .up => walk disk place.dropLast rest
      | .into name =>
        if maxNameLength < name.utf8ByteSize then .error .nameTooLong
        else walk disk (place ++ [name]) rest

/-- The place that a path leads to, whether or not something stands there. -/
def locate (disk : Disk) (path : Path) : Except Fault Place :=
  if path.text.toList.contains '\x00' then .error .nulInName
  else if path.isEmpty then .error .notFound
  else disk.walk (if path.absolute then [] else disk.current) path.steps

/-- Whether a path ends in a name, so that a file can stand there. -/
def namesFile (path : Path) : Bool :=
  path.fileName?.isSome && path.ending = .plain

/-! ## §2. Looking -/

/-- What a path leads to. -/
def lookup? (disk : Disk) (path : Path) : Option Node :=
  match disk.locate path with
  | .ok place => disk.node? place
  | .error _ => none

/-- Whether something stands at the end of a path. -/
def isThere (disk : Disk) (path : Path) : Bool :=
  match disk.lookup? path with
  | none => false
  | some .directory => true
  | some (.file _) => path.ending = .plain

/-- Whether a path leads to a directory. -/
def isDirectory (disk : Disk) (path : Path) : Bool :=
  disk.lookup? path = some .directory

/-- The content of a file. -/
def read (disk : Disk) (path : Path) : Except Fault Text.Bytes := do
  let place ← disk.locate path
  match disk.node? place with
  | none => .error .notFound
  | some .directory => .error .isDirectory
  | some (.file content) => if path.ending = .plain then .ok content else .error .notDirectory

/-- The content of a file as text. -/
def readText (disk : Disk) (path : Path) : Except Fault (List Char) := do
  let content ← disk.read path
  match Text.decode? content with
  | some text => .ok text
  | none => .error .notText

/-- The files right below a directory, with their content. -/
def filesIn (disk : Disk) (path : Path) : List (String × Text.Bytes) :=
  match disk.locate path with
  | .error _ => []
  | .ok place =>
    disk.nodes.filterMap fun entry =>
      match entry.2, entry.1.getLast? with
      | .file content, some name => if entry.1.dropLast = place then some (name, content) else none
      | _, _ => none

/-! ## §3. Changing -/

/-- Makes a file of this content, in place of a file that stands there. -/
def write (disk : Disk) (path : Path) (content : Text.Bytes) : Except Fault Disk := do
  let place ← disk.locate path
  match disk.node? place with
  | some .directory => .error .isDirectory
  | some (.file _) =>
    if namesFile path then .ok (disk.put place (.file content)) else .error .notDirectory
  | none =>
    if namesFile path then .ok (disk.put place (.file content))
    else if path.ending = .slash then .error .isDirectory
    else .error .notFound

/-- Removes a file. -/
def remove (disk : Disk) (path : Path) : Except Fault Disk := do
  let place ← disk.locate path
  match disk.node? place with
  | none => .error .notFound
  | some .directory => .error .isDirectory
  | some (.file _) => if namesFile path then .ok (disk.erase place) else .error .notDirectory

/-- Moves a file to another place, over a file that stands there. -/
def rename (disk : Disk) (source target : Path) : Except Fault Disk := do
  let source ← disk.locate source
  let place ← disk.locate target
  match disk.node? source with
  | none => .error .notFound
  | some .directory => .error .isDirectory
  | some (.file content) =>
    if target.fileName?.isNone then .error .busy
    else
      match target.ending, disk.node? place with
      | .slash, _ => .error .notDirectory
      -- an ending dot is itself looked for below the place
      | .dot, none => .error .notFound
      | .dot, some (.file _) => .error .notDirectory
      | .dot, some .directory => .error .busy
      | .plain, some .directory => .error .isDirectory
      | .plain, _ => .ok ((disk.erase source).put place (.file content))

/-- Makes a directory. -/
def makeDirectory (disk : Disk) (path : Path) : Except Fault Disk := do
  let place ← disk.locate path
  match disk.node? place with
  | some _ => .error .alreadyExists
  | none => .ok (disk.put place .directory)

/-- Makes a directory with `depth` tries at those above it. -/
def makeDirectoriesFrom (disk : Disk) (path : Path) (depth : Nat) : Except Fault Disk :=
  if path.isEmpty then .ok disk
  else
    match disk.makeDirectory path with
    | .ok made => .ok made
    | .error .notFound =>
      match depth, path.parent? with
      | depth + 1, some above => do
        let disk ← disk.makeDirectoriesFrom above depth
        match disk.makeDirectory path with
        | .ok made => .ok made
        | .error fault => if disk.isDirectory path then .ok disk else .error fault
      | _, _ => .error .notFound
    | .error fault => if disk.isDirectory path then .ok disk else .error fault
termination_by depth

/-- Makes a directory and those above it, as far as they are missing. -/
def makeDirectories (disk : Disk) (path : Path) : Except Fault Disk :=
  disk.makeDirectoriesFrom path path.steps.length

/-- Removes an empty directory. -/
def removeDirectory (disk : Disk) (path : Path) : Except Fault Disk := do
  let place ← disk.locate path
  match disk.node? place with
  | none => .error .notFound
  | some (.file _) => .error .notDirectory
  | some .directory =>
    if disk.nodes.any fun entry => place.isPrefixOf entry.1 && entry.1 != place then
      .error .notEmpty
    else .ok (disk.erase place)

/-- Removes a directory and all that is below it. -/
def removeTree (disk : Disk) (path : Path) : Except Fault Disk := do
  let place ← disk.locate path
  match disk.node? place with
  | none => .error .notFound
  | some (.file _) => .error .notDirectory
  | some .directory => .ok (disk.eraseAll place)

end Disk

end BoardRelay
