/-
  BoardRelay.Proofs.Disk.Goal
  ────────────────────────────────
  Files by the places where they stand.  The steps of a path lead to one place
  whichever of the directories on the way are there (`goal_of_locate`), so the
  file of a path can be followed while its directories are being made: that
  keeps every file, and writing a file keeps every other (`KeepsFile`).
-/
import BoardRelay.Proofs.Disk.Parents

namespace BoardRelay.Disk

/-! ## §1. The goal of a path. -/

/-- Where a step leads, whatever stands there. -/
def Step.over (place : Place) : Step → Place
  | .up => place.dropLast
  | .into name => place ++ [name]

/-- The place that the steps of a path lead to, once the directories on the
way are there. -/
def goal (disk : Disk) (path : Path) : Place :=
  path.steps.foldl Step.over (disk.origin path)

/-- A walk that gets through ends where its steps lead by themselves. -/
theorem walk_eq_foldl {disk : Disk} {steps : List Step} {place target : Place}
    (h : disk.walk place steps = .ok target) : target = steps.foldl Step.over place := by
  -- Induction on the steps, each of which a walk takes as the fold does.
  induction steps generalizing place with
  | nil =>
    cases h
    rfl
  | cons step steps ih =>
    obtain ⟨-, next, hstep, hrest⟩ := walk_cons_eq_ok_iff.mp h
    have hnext : next = Step.over place step := by
      cases step with
      | up =>
        cases hstep
        rfl
      | into name => exact (stepFrom_into_eq_ok_iff.mp hstep).2
    rw [ih hrest, hnext, List.foldl_cons]

/-- A path that leads somewhere leads to its goal. -/
theorem goal_of_locate {disk : Disk} {path : Path} {place : Place}
    (h : disk.locate path = .ok place) : disk.goal path = place :=
  (walk_eq_foldl (locate_eq_ok_iff.mp h).2.2).symm

/-- The last step is taken from the goal of the others. -/
theorem goal_concat (disk : Disk) {path : Path} {steps : List Step} {last : Step}
    (h : path.steps = steps ++ [last]) :
    disk.goal path = Step.over (steps.foldl Step.over (disk.origin path)) last := by
  rw [goal, h, List.foldl_append, List.foldl_cons, List.foldl_nil]

/-! ## §2. The file at a place. -/

/-- The content of the file at a place. -/
def fileAt? (disk : Disk) (place : Place) : Option Text.Bytes :=
  match disk.node? place with
  | some (.file content) => some content
  | _ => none

theorem fileAt?_eq_some_iff {disk : Disk} {place : Place} {content : Text.Bytes} :
    disk.fileAt? place = some content ↔ disk.node? place = some (.file content) := by
  unfold fileAt?
  cases disk.node? place with
  | none => simp
  | some node => cases node <;> simp

/-- Where nothing has changed, neither has the file. -/
theorem fileAt?_congr {disk next : Disk} {place : Place}
    (h : next.node? place = disk.node? place) : next.fileAt? place = disk.fileAt? place := by
  rw [fileAt?, h, fileAt?]

/-- What is read at a path is the file at its goal. -/
theorem fileAt?_of_read {disk : Disk} {path : Path} {content : Text.Bytes}
    (h : disk.read path = .ok content) : disk.fileAt? (disk.goal path) = some content := by
  obtain ⟨place, hplace, hnode, -⟩ := read_eq_ok_iff.mp h
  rw [goal_of_locate hplace]
  exact fileAt?_eq_some_iff.mpr hnode

/-! ## §3. Keeping a file. -/

/-- Whether a disk has become another that has all its directories and the
same file, or none, at a place. -/
structure KeepsFile (place : Place) (disk next : Disk) : Prop
    extends disk.KeepsDirectories next where
  file : next.fileAt? place = disk.fileAt? place

variable {disk next : Disk} {place : Place} {path : Path}

theorem keepsFile_refl (place : Place) (disk : Disk) : KeepsFile place disk disk :=
  ⟨⟨rfl, id⟩, rfl⟩

theorem KeepsFile.trans (h : KeepsFile place disk next) {last : Disk}
    (h' : KeepsFile place next last) : KeepsFile place disk last :=
  ⟨h.toKeepsDirectories.trans h'.toKeepsDirectories, h'.file.trans h.file⟩

/-- The goal of a path depends on where the disk is seen from, and on nothing
else. -/
theorem KeepsDirectories.goal (h : disk.KeepsDirectories next) (path : Path) :
    next.goal path = disk.goal path := by
  rw [Disk.goal, origin, h.current, Disk.goal, origin]

/-- A file that is kept is read as before. -/
theorem KeepsFile.read (h : KeepsFile (disk.goal path) disk next) {content : Text.Bytes}
    (hread : disk.read path = .ok content) : next.read path = .ok content := by
  obtain ⟨place, hplace, hnode, hending⟩ := read_eq_ok_iff.mp hread
  have hfile := h.file
  rw [goal_of_locate hplace, fileAt?_eq_some_iff.mpr hnode] at hfile
  exact read_eq_ok_iff.mpr
    ⟨place, locate_keeps h.toKeepsDirectories hplace, fileAt?_eq_some_iff.mp hfile, hending⟩

/-- What is read after a file was kept stood there before, be it that no path
led there. -/
theorem KeepsFile.fileAt?_of_read (h : KeepsFile (disk.goal path) disk next)
    {content : Text.Bytes} (hread : next.read path = .ok content) :
    disk.fileAt? (disk.goal path) = some content := by
  rw [← h.file, ← h.toKeepsDirectories.goal path]
  exact Disk.fileAt?_of_read hread

/-- Writing a file keeps every other. -/
theorem keepsFile_write {content : Text.Bytes} (h : disk.write path content = .ok next)
    (hne : place ≠ disk.goal path) : KeepsFile place disk next := by
  refine ⟨keeps_write h, ?_⟩
  obtain ⟨written, hwritten, -, -, rfl⟩ := write_eq_ok_iff.mp h
  rw [goal_of_locate hwritten] at hne
  exact fileAt?_congr (node?_put_of_ne disk _ hne)

/-- A directory is made where nothing is, so every file is kept. -/
theorem keepsFile_makeDirectory (h : disk.makeDirectory path = .ok next) (place : Place) :
    KeepsFile place disk next := by
  obtain ⟨target, -, hnone, rfl⟩ := makeDirectory_eq_ok_iff.mp h
  have hfree : disk.node? target ≠ some .directory := by
    rw [hnone]
    nofun
  refine ⟨keeps_put _ hfree, ?_⟩
  by_cases hsame : place = target
  · -- nothing was there, and a directory is no file
    rw [hsame, fileAt?, node?_put disk _ (ne_root hfree), fileAt?, hnone]
  · exact fileAt?_congr (node?_put_of_ne disk _ hsame)

/-- Making the directories of a path keeps every file, whether or not the last
of them could be made. -/
theorem keepsFile_makeDirectoriesFrom {depth : Nat}
    (h : disk.makeDirectoriesFrom path depth = .ok next) (place : Place) :
    KeepsFile place disk next := by
  -- Induction on how far above directories may be missing.
  induction depth generalizing path disk next with
  | zero =>
    rcases makeDirectoriesFrom_cases h with ⟨rfl, -⟩ | hmade | ⟨_, _, _, hdepth, -⟩
    · exact keepsFile_refl place _
    · exact keepsFile_makeDirectory hmade place
    · cases hdepth
  | succ depth ih =>
    rcases makeDirectoriesFrom_cases h with
      ⟨rfl, -⟩ | hmade | ⟨above, _, middle, hdepth, -, hmiddle, hlast⟩
    · exact keepsFile_refl place _
    · exact keepsFile_makeDirectory hmade place
    · cases hdepth
      rcases hlast with hmade | ⟨rfl, -⟩
      · exact (ih hmiddle).trans (keepsFile_makeDirectory hmade place)
      · exact ih hmiddle

end BoardRelay.Disk
