/-
  BoardRelay.Staging.Area
  ────────────────────────────────
  The staging area: a directory of files under a byte budget.  A file that
  several parties hold is there once; it is counted once, by the size that
  it had when it was first put there, and goes with its last holder.
-/
import BoardRelay.Disk.Basic
import BoardRelay.Ledger.Basic
import BoardRelay.Staging.Name

namespace BoardRelay.Staging

/-- A staged file: the size it is counted with, and how many hold it. -/
structure Holding where
  size : UInt64
  holders : Nat
  deriving Repr, DecidableEq

/-- A staging area. -/
structure Area where
  root : Disk.Path
  ledger : Ledger
  holdings : List (Disk.Path × Holding)
  /-- How many files have been begun. -/
  begun : Nat
  deriving Repr

namespace Area

/-- An area of which nothing is used. -/
def empty (root : Disk.Path) (budget : UInt64) : Area :=
  ⟨root, Ledger.unused budget, [], 0⟩

/-- An area on disk: its directory is made if it is missing. -/
def onDisk (root : Disk.Path) (budget : UInt64) (disk : Disk) : Except Error (Area × Disk) :=
  match disk.makeDirectories root with
  | .ok disk => .ok (empty root budget, disk)
  | .error fault => .error (.disk fault)

/-- Where a locator is staged. -/
def place (locator : String) (area : Area) : Disk.Path :=
  area.root.join (Disk.Path.ofText (stagedName locator))

/-- The holding at a path. -/
def holding? (path : Disk.Path) (area : Area) : Option Holding :=
  area.holdings.lookup path

/-- The area with the holding at a path replaced or added. -/
def withHolding (path : Disk.Path) (holding : Holding) (area : Area) : Area :=
  { area with
    holdings := (path, holding) :: area.holdings.filter fun entry => entry.1 != path }

/-- The area without the holding at a path. -/
def withoutHolding (path : Disk.Path) (area : Area) : Area :=
  { area with holdings := area.holdings.filter fun entry => entry.1 != path }

/-- One more holds the file at a path, if it is staged. -/
def hold? (path : Disk.Path) (area : Area) : Option Area :=
  (area.holding? path).map fun holding =>
    area.withHolding path { holding with holders := holding.holders + 1 }

/-- The area with a size taken. -/
def take (size : UInt64) (area : Area) : Area :=
  { area with ledger := area.ledger.take size }

/-- The area with a size given back. -/
def giveBack (size : UInt64) (area : Area) : Area :=
  { area with ledger := area.ledger.release size }

/-- A path to write a file at before it is moved to its place; every call
gives another one. -/
def beginFile (path : Disk.Path) (area : Area) : Disk.Path × Area :=
  (path.withFileName (partName (path.fileName?.getD "") area.begun),
    { area with begun := area.begun + 1 })

end Area

end BoardRelay.Staging
