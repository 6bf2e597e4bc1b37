/-
  BoardRelay.Store.Saved
  ────────────────────────────────
  A store that lives in a file.  Every change is made on a copy, written
  beside the file, moved over it, and only then taken over in memory; a
  change that fails anywhere leaves file and memory as they were.
-/
import BoardRelay.Disk.Basic
import BoardRelay.Store.Record

namespace BoardRelay.Store

/-! ## §1. Writing a file -/

/-- A step of replacing a file. -/
inductive SaveStep where
  /-- Makes the directories that the file is in. -/
  | makeParents
  /-- Makes the file beside it, empty. -/
  | create
  /-- Has this many bytes in the file beside it. -/
  | fill (count : Nat)
  /-- Moves the file beside it over it. -/
  | publish
  deriving Repr, DecidableEq

/-- The file that is written before it is moved to its place. -/
def besidePath (path : Disk.Path) : Disk.Path :=
  path.withExtension "tmp"

/-- A disk with the directories that a file is in. -/
def withParents (path : Disk.Path) (disk : Disk) : Except Disk.Fault Disk :=
  match path.parent? with
  | none => .ok disk
  | some above => disk.makeDirectories above

/-- What a step does to the disk. -/
def SaveStep.run (path : Disk.Path) (content : Text.Bytes) :
    SaveStep → Disk → Except Disk.Fault Disk
  | .makeParents, disk => withParents path disk
  | .create, disk => disk.write (besidePath path) []
  | .fill count, disk => disk.write (besidePath path) (content.take count)
  | .publish, disk => disk.rename (besidePath path) path

/-- The steps that replace a file by this content. -/
def savePlan (content : Text.Bytes) : List SaveStep :=
  [.makeParents, .create, .fill content.length, .publish]

/-- The disk after the steps up to the first that fails, and its fault. -/
def runPlan (path : Disk.Path) (content : Text.Bytes) :
    List SaveStep → Disk → Disk × Except Disk.Fault Unit
  | [], disk => (disk, .ok ())
  | step :: others, disk =>
    match step.run path content disk with
    | .ok next => runPlan path content others next
    | .error fault => (disk, .error fault)

/-- Replaces the file at a path by a store's content. -/
def save (path : Disk.Path) (store : Store) (disk : Disk) : Disk × Except Disk.Fault Unit :=
  runPlan path store.write (savePlan store.write) disk

/-! ## §2. The store in a file -/

/-- A store and the file that it lives in. -/
structure Saved where
  path : Disk.Path
  store : Store
  deriving Repr

/-- The store in a file.  A file that is not there holds the empty store. -/
def Saved.load (path : Disk.Path) (disk : Disk) : Except Error Saved :=
  match disk.read path with
  | .error .notFound => .ok ⟨path, Store.empty⟩
  | .error fault => .error (.disk fault)
  | .ok content =>
    match Store.read? content with
    | some store => .ok ⟨path, store⟩
    | none => .error .json

/-- Makes a change on a copy and writes it, whether or not it changed anything.
What a refused change made of the copy is dropped with it. -/
def Saved.update {α : Type} (change : Store → Except Error α × Store) (saved : Saved)
    (disk : Disk) : Except Error α × Saved × Disk :=
  match change saved.store with
  | (.error e, _) => (.error e, saved, disk)
  | (.ok value, next) =>
    match save saved.path next disk with
    | (disk, .ok ()) => (.ok value, { saved with store := next }, disk)
    | (disk, .error fault) => (.error (.disk fault), saved, disk)

/-- Moves the cursor forward; nothing is written if it does not move. -/
def Saved.advance (timestamp : UInt64) (saved : Saved) (disk : Disk) :
    Except Error Bool × Saved × Disk :=
  match saved.store.advance timestamp with
  | (false, _) => (.ok false, saved, disk)
  | (true, next) =>
    match save saved.path next disk with
    | (disk, .ok ()) => (.ok true, { saved with store := next }, disk)
    | (disk, .error fault) => (.error (.store (.cursorNotSaved fault)), saved, disk)

end BoardRelay.Store
