/-
  BoardRelay.Proofs.Store.Saving
  ────────────────────────────────
  Replacing a store's file.  A save that goes through leaves the file with
  the store's text (`read_save`); one that cannot make the file beside it
  leaves the file as it was (`Holds.save_of_blocked`).
-/
import BoardRelay.Proofs.Disk.Parents
import BoardRelay.Store.Saved

namespace BoardRelay.Store

/-! ## §1. What a file holds. -/

/-- Whether the file at a path has this content.  Without content it is not
there, and making its directories does not bring one into view. -/
def Holds (path : Disk.Path) (disk : Disk) : Option Text.Bytes → Prop
  | some content => disk.read path = .ok content
  | none => disk.read path = .error .notFound ∧
      ∀ made, withParents path disk = .ok made → made.read path = .error .notFound

/-- Whether the file beside the one at a path cannot be made: either its
directories cannot, or it cannot be made in them. -/
def Blocked (path : Disk.Path) (disk : Disk) : Prop :=
  ∀ made, withParents path disk = .ok made →
    ∃ fault, made.write (besidePath path) [] = .error fault

/-- Reading answers with the content, or that nothing was found. -/
theorem Holds.read {path : Disk.Path} {disk : Disk} {content : Option Text.Bytes}
    (h : Holds path disk content) :
    disk.read path = content.elim (.error .notFound) .ok := by
  cases content with
  | none => exact h.1
  | some content => exact h

/-! ## §2. The directories of a file. -/

/-- Directories that are there are not made. -/
theorem withParents_eq_self {path : Disk.Path} {disk : Disk}
    (h : ∀ above, path.parent? = some above →
      above.isEmpty = true ∨ disk.isDirectory above = true) :
    withParents path disk = .ok disk := by
  unfold withParents
  cases habove : path.parent? with
  | none => rfl
  | some above => exact Disk.makeDirectories_eq_self (h above habove)

/-- Directories that were made need not be made again. -/
theorem withParents_again {path : Disk.Path} {disk made : Disk}
    (h : withParents path disk = .ok made) : withParents path made = .ok made := by
  apply withParents_eq_self
  intro above habove
  rw [withParents, habove] at h
  by_cases hempty : above.isEmpty = true
  · exact .inl hempty
  · exact .inr (Disk.makeDirectories_leaves h (by simpa using hempty))

/-- A file that can be read has its directories. -/
theorem withParents_of_read {path : Disk.Path} {disk : Disk} {content : Text.Bytes}
    (h : disk.read path = .ok content) : withParents path disk = .ok disk := by
  obtain ⟨place, hlocate, -⟩ := Disk.read_eq_ok_iff.mp h
  exact withParents_eq_self fun above habove => Disk.isDirectory_parent habove hlocate

/-- Making its directories leaves a file as it is. -/
theorem Holds.of_withParents {path : Disk.Path} {disk made : Disk} {content : Option Text.Bytes}
    (h : Holds path disk content) (hmade : withParents path disk = .ok made) :
    Holds path made content := by
  cases content with
  | some content =>
    rw [withParents_of_read h] at hmade
    cases hmade
    exact h
  | none =>
    -- Making the directories a second time makes nothing.
    refine ⟨h.2 made hmade, fun again hagain => ?_⟩
    rw [withParents_again hmade] at hagain
    cases hagain
    exact h.2 made hmade

/-- Where names only lead down a tree, a file that is not found holds nothing:
its directories do not bring it into view. -/
theorem holds_none_of_read {path : Disk.Path} {disk : Disk} (htree : disk.Tree)
    {names : List String} (hsteps : path.steps = names.map .into)
    (hshort : ∀ name ∈ names, ¬ Disk.maxNameLength < name.utf8ByteSize)
    (h : disk.read path = .error .notFound) : Holds path disk none := by
  refine ⟨h, fun made hmade => ?_⟩
  rw [withParents] at hmade
  -- a path without a parent has no directories to be made
  cases habove : path.parent? with
  | none =>
    rw [habove] at hmade
    cases hmade
    exact h
  | some above =>
    rw [habove] at hmade
    exact htree.read_makeDirectories hsteps hshort h habove hmade

/-! ## §3. Saves. -/

/-- A save goes through if its four steps do. -/
theorem save_eq_ok_iff {path : Disk.Path} {store : Store} {disk after : Disk} :
    save path store disk = (after, .ok ()) ↔ ∃ made created filled,
      withParents path disk = .ok made ∧ made.write (besidePath path) [] = .ok created ∧
      created.write (besidePath path) store.write = .ok filled ∧
      filled.rename (besidePath path) path = .ok after := by
  simp only [save, savePlan, runPlan, SaveStep.run, List.take_length]
  -- each step of the plan either stops it or hands its disk to the next
  cases hmade : withParents path disk with
  | error fault => simp
  | ok made =>
    cases hcreated : made.write (besidePath path) [] with
    | error fault => simp [hcreated]
    | ok created =>
      cases hfilled : created.write (besidePath path) store.write with
      | error fault => simp [hcreated, hfilled]
      | ok filled =>
        cases hafter : filled.rename (besidePath path) path with
        | error fault => simp [hcreated, hfilled, hafter]
        | ok published => simp [hcreated, hfilled, hafter]

/-- A save that goes through leaves the store's text in the file. -/
theorem read_save {path : Disk.Path} {store : Store} {disk after : Disk}
    (h : save path store disk = (after, .ok ())) : after.read path = .ok store.write := by
  obtain ⟨made, created, filled, -, -, hfilled, hafter⟩ := save_eq_ok_iff.mp h
  exact Disk.read_rename hafter (Disk.read_write hfilled)

/-- A save that cannot make the file beside it fails, and has at most made
directories. -/
theorem save_of_blocked {path : Disk.Path} {disk : Disk} (h : Blocked path disk) (store : Store) :
    ∃ after fault, save path store disk = (after, .error fault) ∧
      (after = disk ∨ withParents path disk = .ok after) := by
  cases hmade : withParents path disk with
  | error fault =>
    refine ⟨disk, fault, ?_, .inl rfl⟩
    simp only [save, savePlan, runPlan, SaveStep.run, hmade]
  -- the directories can be made, so it is the file beside that cannot
  | ok made =>
    obtain ⟨fault, hfault⟩ := h made hmade
    refine ⟨made, fault, ?_, .inr rfl⟩
    simp only [save, savePlan, runPlan, SaveStep.run, hmade, hfault]

/-- A save that cannot make the file beside it leaves the file as it was. -/
theorem Holds.save_of_blocked {path : Disk.Path} {disk : Disk} {content : Option Text.Bytes}
    (h : Holds path disk content) (hblocked : Blocked path disk) (store : Store) :
    ∃ after fault, save path store disk = (after, .error fault) ∧ Holds path after content := by
  obtain ⟨after, fault, hsave, rfl | hmade⟩ := Store.save_of_blocked hblocked store
  · exact ⟨after, fault, hsave, h⟩
  · exact ⟨after, fault, hsave, h.of_withParents hmade⟩

/-! ## §4. When a save goes through. -/

/-- The file beside is a neighbour of the file. -/
theorem besidePath_steps {path : Disk.Path} (h : Disk.namesFile (besidePath path) = true) :
    ∃ steps name beside, path.steps = steps ++ [.into name] ∧
      besidePath path = ⟨path.absolute, steps ++ [.into beside], .plain⟩ := by
  unfold besidePath Disk.Path.withExtension at h ⊢
  cases hname : path.fileName? with
  -- a path without a file name gets no extension, and names no file either
  | none =>
    rw [hname, Disk.namesFile, hname] at h
    cases h
  | some name =>
    obtain ⟨steps, hsteps⟩ := Disk.steps_of_fileName? hname
    refine ⟨steps, name, String.ofList (Disk.Path.stem name.toList ++ '.' :: "tmp".toList),
      hsteps, ?_⟩
    simp only [Disk.Path.withFileName, hname]
    rw [hsteps, List.dropLast_concat]

/-- Where the file's directories and the file beside it can be made, the path
of the file leads to a place that is no directory. -/
theorem Holds.locate {path : Disk.Path} {disk : Disk} {content : Option Text.Bytes}
    (h : Holds path disk content) {steps : List Disk.Step} {name beside : String}
    {place : Disk.Place} (hsteps : path.steps = steps ++ [.into name])
    (hbeside : disk.locate ⟨path.absolute, steps ++ [.into beside], .plain⟩ = .ok place) :
    ∃ target, disk.locate path = .ok target ∧ disk.node? target ≠ some .directory := by
  have hread := h.read
  -- A name that no directory takes is a fault that reading would have met.
  rcases Disk.locate_neighbour hsteps hbeside with hnul | hlong | ⟨target, htarget⟩
  · rw [Disk.read, hnul] at hread
    cases content <;> cases hread
  · rw [Disk.read, hlong] at hread
    cases content <;> cases hread
  · refine ⟨target, htarget, fun hdir => ?_⟩
    rw [Disk.read, htarget] at hread
    dsimp only [bind, Except.bind] at hread
    rw [hdir] at hread
    cases content <;> cases hread

/-- Nothing but the file beside it can keep a file of a plain path from being
replaced. -/
theorem Holds.save_of_not_blocked {path : Disk.Path} {disk : Disk} {content : Option Text.Bytes}
    (h : Holds path disk content) (hplain : path.ending = .plain) (hfree : ¬ Blocked path disk)
    (store : Store) : ∃ after, save path store disk = (after, .ok ()) := by
  -- Where one of the first two steps fails, the file beside is what is blocked.
  cases hmade : withParents path disk with
  | error fault =>
    refine absurd (fun made hother => ?_) hfree
    rw [hmade] at hother
    cases hother
  | ok made =>
    cases hcreated : made.write (besidePath path) [] with
    | error fault =>
      refine absurd (fun other hother => ?_) hfree
      rw [hmade] at hother
      cases hother
      exact ⟨fault, hcreated⟩
    | ok created =>
      obtain ⟨filled, hfilled⟩ := Disk.write_again hcreated store.write
      obtain ⟨beside, hbeside, hnode, hnames, -⟩ := Disk.write_eq_ok_iff.mp hcreated
      obtain ⟨steps, name, besideName, hsteps, hpath⟩ := besidePath_steps hnames
      obtain ⟨target, htarget, hplace⟩ := (h.of_withParents hmade).locate hsteps (hpath ▸ hbeside)
      -- Both paths lead where they led before the file beside was written.
      have hkeeps := (Disk.keeps_write hcreated).trans (Disk.keeps_write hfilled)
      have hplace' : filled.node? target ≠ some .directory := by
        rwa [Ne, Disk.directory_write_iff hfilled, Disk.directory_write_iff hcreated]
      obtain ⟨source, hsource, hcontent, -⟩ := Disk.read_eq_ok_iff.mp (Disk.read_write hfilled)
      have hnamed : Disk.namesFile path = true := by
        rw [Disk.namesFile, hplain, Disk.Path.fileName?, hsteps, List.getLast?_concat]
        rfl
      exact ⟨_, save_eq_ok_iff.mpr ⟨made, created, filled, hmade, hcreated, hfilled,
        Disk.rename_eq_ok_iff.mpr ⟨source, target, store.write, hsource,
          Disk.locate_keeps hkeeps htarget, hcontent, hnamed, hplace', rfl⟩⟩⟩

end BoardRelay.Store
