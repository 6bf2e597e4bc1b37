/-
  BoardRelay.Staging.Task
  ────────────────────────────────
  What is done in a staging area, in atomic steps, so that many tasks may be
  on their way at once.

      looking ──▶ fetching ──▶ reserving ──▶ writing ──▶ settling ──▶ done
                                                │           │
      freeing ──────────────────────────▶ givingBack ──▶ clearing ──▶ done

  A file is counted before it is written.  Whoever moved it to its place
  while another copy was already counted gives its own count back.
-/
import BoardRelay.Staging.Area

namespace BoardRelay.Staging

/-- What a task comes to: the path it was about. -/
abbrev Result := Except Error Disk.Path

/-- How far a task is. -/
inductive Task where
  /-- Wants to hold the file of a locator. -/
  | looking (locator : String)
  | fetching (locator : String)
  /-- Has the content and waits for space. -/
  | reserving (locator : String) (content : Text.Bytes)
  | writing (locator : String) (content : Text.Bytes)
  /-- Has written the content beside its place. -/
  | settling (locator : String) (content : Text.Bytes) (part : Disk.Path)
  /-- Owes a size to the ledger, and may have left a file behind. -/
  | givingBack (size : UInt64) (litter : Option Disk.Path) (result : Result)
  | clearing (litter : Disk.Path) (result : Result)
  /-- Wants to hold the file of a locator no longer. -/
  | freeing (locator : String)
  | done (result : Result)
  deriving DecidableEq

/-- The size of a content. -/
def sizeOf (content : Text.Bytes) : UInt64 :=
  UInt64.ofNat content.length

namespace Task

/-- What an action on disk comes to, when a fault may strike it. -/
def attempt (struck : Option Disk.Fault) (outcome : Except Disk.Fault Disk) :
    Except Disk.Fault Disk :=
  match struck with
  | some fault => .error fault
  | none => outcome

/-- Takes the space for a content, if there is enough now. -/
def reserve (locator : String) (content : Text.Bytes) (area : Area) : Task × Area :=
  match area.ledger.checkSize (sizeOf content) with
  | .error e => (.done (.error e), area)
  | .ok () =>
    if area.ledger.fits (sizeOf content) then (.writing locator content, area.take (sizeOf content))
    else (.reserving locator content, area)

/-- Moves a written file to its place and counts its holder. -/
def settle (struck : Option Disk.Fault) (locator : String) (content : Text.Bytes)
    (part : Disk.Path) (area : Area) (disk : Disk) : Task × Area × Disk :=
  let path := area.place locator
  match attempt struck (disk.rename part path) with
  | .error fault => (.givingBack (sizeOf content) (some part) (.error (.disk fault)), area, disk)
  | .ok disk =>
    match area.hold? path with
    | some area => (.givingBack (sizeOf content) none (.ok path), area, disk)
    | none => (.done (.ok path), area.withHolding path ⟨sizeOf content, 1⟩, disk)

/-- Gives up a holding.  The last holder removes the file, and owes its size
to the ledger. -/
def free (struck : Option Disk.Fault) (locator : String) (area : Area) (disk : Disk) :
    Task × Area × Disk :=
  let path := area.place locator
  let removed := attempt struck (disk.remove path)
  let result : Result := match removed with
    | .ok _ => .ok path
    | .error fault => .error (.disk fault)
  let left := match removed with
    | .ok disk => disk
    | .error _ => disk
  if !isVideo locator then (.done result, area, left)
  else match area.holding? path with
    | none => (.done result, area, left)
    | some holding =>
      if 1 < holding.holders then
        let left := { holding with holders := holding.holders - 1 }
        (.done (.ok path), area.withHolding path left, disk)
      else (.givingBack holding.size none result, area.withoutHolding path, left)

/-- The next step of a task.  A fault may strike what it does on disk. -/
def step (fetch : String → Except Http.Error Text.Bytes) (struck : Option Disk.Fault)
    (task : Task) (area : Area) (disk : Disk) : Task × Area × Disk :=
  match task with
  | .looking locator =>
    match area.hold? (area.place locator) with
    | some held => (.done (.ok (area.place locator)), held, disk)
    | none => (.fetching locator, area, disk)
  | .fetching locator =>
    match fetch locator with
    | .error e => (.done (.error (.fetch locator (.http e))), area, disk)
    | .ok content => (.reserving locator content, area, disk)
  | .reserving locator content =>
    let (task, area) := reserve locator content area
    (task, area, disk)
  | .writing locator content =>
    let (part, area) := area.beginFile (area.place locator)
    match attempt struck (disk.write part content) with
    | .error fault => (.givingBack (sizeOf content) (some part) (.error (.disk fault)), area, disk)
    | .ok disk => (.settling locator content part, area, disk)
  | .settling locator content part => settle struck locator content part area disk
  | .givingBack size litter result =>
    match litter with
    | none => (.done result, area.giveBack size, disk)
    | some litter => (.clearing litter result, area.giveBack size, disk)
  | .clearing litter result =>
    match attempt struck (disk.remove litter) with
    | .error _ => (.done result, area, disk)
    | .ok disk => (.done result, area, disk)
  | .freeing locator => free struck locator area disk
  | .done result => (.done result, area, disk)

/-- The end of patience: a task that waits for space gets none. -/
def giveUp (task : Task) : Task :=
  match task with
  | .reserving _ content => .done (.error (.quotaExhausted (sizeOf content)))
  | other => other

/-! ## Alone -/

/-- The size that a task waits for, if there is no space for it. -/
def shortage? (task : Task) (area : Area) : Option UInt64 :=
  match task with
  | .reserving _ content =>
    if area.ledger.tooLarge (sizeOf content) || area.ledger.fits (sizeOf content) then none
    else some (sizeOf content)
  | _ => none

/-- What a task has come to, if it is over. -/
def result? : Task → Option Result
  | .done result => some result
  | _ => none

/-- How many steps a task makes at most until it is done. -/
def distance : Task → Nat
  | .looking _ => 7
  | .fetching _ => 6
  | .reserving _ _ => 5
  | .writing _ _ => 4
  | .settling _ _ _ => 3
  | .givingBack _ _ _ => 2
  | .clearing _ _ => 1
  | .freeing _ => 3
  | .done _ => 0

/-- Every step brings a task nearer to its end, unless it waits for space. -/
theorem distance_step_lt (fetch : String → Except Http.Error Text.Bytes)
    (struck : Option Disk.Fault) (task : Task) (area : Area) (disk : Disk)
    (unfinished : task.result? = none) (free : task.shortage? area = none) :
    (step fetch struck task area disk).1.distance < task.distance := by
  cases task with
  | looking locator => simp only [step]; split <;> simp [distance]
  | fetching locator => simp only [step]; split <;> simp [distance]
  | reserving locator content =>
    simp only [step, reserve, Ledger.checkSize]
    by_cases large : area.ledger.tooLarge (sizeOf content) = true
    · simp [large, distance]
    · -- room is free for a task that falls short of none, so the reservation goes through
      have fits : area.ledger.fits (sizeOf content) = true := by
        simpa [shortage?, large] using free
      simp [large, fits, distance]
  | writing locator content => simp only [step]; split <;> simp [distance]
  | settling locator content part =>
    simp only [step, settle]
    split
    · simp [distance]
    · split <;> simp [distance]
  | givingBack size litter result => simp only [step]; split <;> simp [distance]
  | clearing litter result => simp only [step]; split <;> simp [distance]
  | freeing locator =>
    simp only [step, Task.free]
    split
    · simp [distance]
    · split
      · simp [distance]
      · split <;> simp [distance]
  | done result => simp [result?] at unfinished

/-- What a task comes to with nobody else around: whoever has to wait for
space waits in vain. -/
def run (fetch : String → Except Http.Error Text.Bytes) (task : Task) (area : Area)
    (disk : Disk) : Result × Area × Disk :=
  match _unfinished : task.result?, _free : task.shortage? area with
  | some result, _ => (result, area, disk)
  | none, some size => (.error (.quotaExhausted size), area, disk)
  | none, none =>
    let next := step fetch none task area disk
    run fetch next.1 next.2.1 next.2.2
termination_by task.distance
decreasing_by exact distance_step_lt fetch none task area disk (by assumption) (by assumption)

end Task

namespace Area

/-- Fetches and stages the file of a locator, or holds it if it is staged. -/
def save (fetch : String → Except Http.Error Text.Bytes) (locator : String) (area : Area)
    (disk : Disk) : Result × Area × Disk :=
  Task.run fetch (.looking locator) area disk

/-- Stages a content that is at hand. -/
def stage (locator : String) (content : Text.Bytes) (area : Area) (disk : Disk) :
    Result × Area × Disk :=
  Task.run (fun _ => .error .truncated) (.reserving locator content) area disk

/-- Holds the file of a locator no longer. -/
def free (locator : String) (area : Area) (disk : Disk) : Result × Area × Disk :=
  Task.run (fun _ => .error .truncated) (.freeing locator) area disk

end Area

end BoardRelay.Staging
