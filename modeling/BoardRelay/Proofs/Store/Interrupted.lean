/-
  BoardRelay.Proofs.Store.Interrupted
  ────────────────────────────────
  Replacing a store's file when it stops on the way: directories are made or
  not, the file beside has part of its bytes or all of them, and a step fails
  or is the last that is taken.  The store's file is as it was or has all of
  its new content (`kept_or_replaced`), but for one kind of path: where the
  name is itself that of the file beside, the store's file is what is emptied
  first (`BesideItself.partly_written`).
-/
import BoardRelay.Proofs.Disk.Goal
import BoardRelay.Proofs.Store.Mirror
import BoardRelay.Proofs.Text.Search

namespace BoardRelay

namespace Disk.Path

/-! ## §1. Names and their stems. -/

/-- The stem of a name is what stands before its last dot, if anything does. -/
theorem stem_append {front extension : List Char} (hfront : front ≠ []) (h : '.' ∉ extension) :
    stem (front ++ '.' :: extension) = front := by
  unfold stem
  rw [Text.afterLast?_append_cons h]
  have hbefore : (front ++ '.' :: extension).take
      ((front ++ '.' :: extension).length - extension.length - 1) = front := by
    have hlength : (front ++ '.' :: extension).length - extension.length - 1 = front.length := by
      rw [List.length_append, List.length_cons]
      omega
    rw [hlength, List.take_left]
  simp only [hbefore]
  exact if_neg (by simpa using hfront)

/-- Only a name without characters has a stem without. -/
theorem stem_ne_nil {name : List Char} (h : name ≠ []) : stem name ≠ [] := by
  unfold stem
  cases Text.afterLast? ['.'] name with
  | none => exact h
  | some extension =>
    -- a dot at the very front leaves the whole name as its stem
    intro hstem
    dsimp only at hstem
    split at hstem
    · exact h hstem
    · rename_i hbefore
      exact hbefore (by rw [hstem]; rfl)

end Disk.Path

namespace Store

/-! ## §2. The file beside. -/

/-- Whether the file of a path would be its own file beside: its name has the
extension of one. -/
def BesideItself (path : Disk.Path) : Prop :=
  ∃ front : String, front ≠ "" ∧ path.fileName? = some (front ++ ".tmp")

/-- The file beside has the stem of the name, and an extension of its own. -/
theorem besidePath_of_fileName? {path : Disk.Path} {name : String}
    (h : path.fileName? = some name) : besidePath path =
      path.withFileName (String.ofList (Disk.Path.stem name.toList ++ '.' :: "tmp".toList)) := by
  unfold besidePath Disk.Path.withExtension
  rw [h]

/-- Names are put together as characters or as texts alike. -/
theorem ofList_tmp (front : List Char) :
    String.ofList (front ++ '.' :: "tmp".toList) = String.ofList front ++ ".tmp" := by
  rw [← String.toList_inj, String.toList_ofList, String.toList_append,
    String.toList_ofList (l := front)]
  rfl

/-- A path of that kind is the path of the file beside, but for an ending. -/
theorem BesideItself.besidePath_eq {path : Disk.Path} (h : BesideItself path) :
    besidePath path = ⟨path.absolute, path.steps, .plain⟩ := by
  obtain ⟨front, hfront, hname⟩ := h
  have hstem : Disk.Path.stem (front ++ ".tmp").toList = front.toList := by
    rw [String.toList_append]
    exact Disk.Path.stem_append (by simpa using hfront) (by decide)
  obtain ⟨steps, hsteps⟩ := Disk.steps_of_fileName? hname
  rw [besidePath_of_fileName? hname, hstem, ofList_tmp, Disk.Path.withFileName, hname]
  simp [hsteps]

/-- The file beside is another than the file of any other path. -/
theorem goal_beside_ne {path : Disk.Path} (h : ¬ BesideItself path) {disk next : Disk}
    {content : Text.Bytes} (hwrite : disk.write (besidePath path) content = .ok next) :
    disk.goal path ≠ disk.goal (besidePath path) := by
  cases hname : path.fileName? with
  | none =>
    -- such a path names no file that could be written
    obtain ⟨-, -, -, hnames, -⟩ := Disk.write_eq_ok_iff.mp hwrite
    rw [besidePath, Disk.Path.withExtension, hname, Disk.namesFile, hname] at hnames
    cases hnames
  | some name =>
    obtain ⟨steps, hsteps⟩ := Disk.steps_of_fileName? hname
    have hbeside := besidePath_of_fileName? hname
    rw [Disk.Path.withFileName, hname, hsteps] at hbeside
    generalize hother : String.ofList (Disk.Path.stem name.toList ++ '.' :: "tmp".toList) = other
      at hbeside
    rw [disk.goal_concat hsteps, hbeside, disk.goal_concat (by rw [List.dropLast_concat])]
    intro hgoal
    have hsame : name = other := by simpa [Disk.Step.over, Disk.origin] using hgoal
    subst hsame
    -- the name would be a stem with the extension of a file beside
    refine h ⟨String.ofList (Disk.Path.stem name.toList), ?_, ?_⟩
    · have hchars : name.toList ≠ [] := by
        rw [← hother, String.toList_ofList]
        simp
      simpa [← String.toList_inj] using Disk.Path.stem_ne_nil hchars
    · rw [hname, ← ofList_tmp, hother]

/-! ## §3. Stopping on the way. -/

/-- The steps up to the last byte, when this many of them are there after each
write. -/
def fillingPlan (counts : List Nat) : List SaveStep :=
  .makeParents :: .create :: counts.map .fill

/-- The steps that replace a file when its content is written in pieces. -/
def piecemealPlan (counts : List Nat) (content : Text.Bytes) : List SaveStep :=
  fillingPlan (counts ++ [content.length]) ++ [.publish]

/-- The disk when no more than this many of the steps are taken, or less where
one fails. -/
def stopAfter (path : Disk.Path) (content : Text.Bytes) (counts : List Nat) (steps : Nat)
    (disk : Disk) : Disk :=
  (runPlan path content ((piecemealPlan counts content).take steps) disk).1

/-- What can have become of a disk when replacing a file is broken off before
the new file is moved to its place. -/
inductive Cut (path : Disk.Path) (content : Text.Bytes) (disk : Disk) : Disk → Prop
  /-- Some of the directories have been made. -/
  | making {above : Disk.Path} {made : Disk} :
    disk.makeDirectories above = .ok made → Cut path content disk made
  /-- The file beside has been made, or part of its content been written. -/
  | filling (counts : List Nat) (steps : Nat) :
    Cut path content disk (runPlan path content ((fillingPlan counts).take steps) disk).1

variable {path : Disk.Path} {content : Text.Bytes} {disk after : Disk}

/-- A store is written in one piece. -/
theorem savePlan_eq (content : Text.Bytes) : savePlan content = piecemealPlan [] content :=
  rfl

/-- The last step of a plan is taken if those before it went through. -/
theorem runPlan_concat (path : Disk.Path) (content : Text.Bytes) (steps : List SaveStep)
    (last : SaveStep) (disk : Disk) :
    runPlan path content (steps ++ [last]) disk =
      match runPlan path content steps disk with
      | (middle, .error fault) => (middle, .error fault)
      | (middle, .ok ()) =>
        match last.run path content middle with
        | .ok next => (next, .ok ())
        | .error fault => (middle, .error fault) := by
  -- by the plan before its last step, which stops at the same fault
  induction steps generalizing disk with
  | nil =>
    cases hlast : last.run path content disk with
    | error fault => simp [runPlan, hlast]
    | ok next => simp [runPlan, hlast]
  | cons step steps ih =>
    rw [List.cons_append, runPlan, runPlan]
    cases hstep : step.run path content disk with
    | error fault => rfl
    | ok next => exact ih next

/-- Making directories keeps every file. -/
theorem keepsFile_withParents (h : withParents path disk = .ok after) (place : Disk.Place) :
    Disk.KeepsFile place disk after := by
  unfold withParents at h
  cases habove : path.parent? with
  | none =>
    rw [habove] at h
    cases h
    exact Disk.keepsFile_refl _ _
  | some above =>
    rw [habove] at h
    exact Disk.keepsFile_makeDirectoriesFrom h _

/-- A step before the last keeps the file. -/
theorem keepsFile_step (h : ¬ BesideItself path) {step : SaveStep} (hstep : step ≠ .publish)
    (hrun : step.run path content disk = .ok after) :
    Disk.KeepsFile (disk.goal path) disk after := by
  cases step with
  | makeParents => exact keepsFile_withParents hrun _
  | create => exact Disk.keepsFile_write hrun (goal_beside_ne h hrun)
  | fill count => exact Disk.keepsFile_write hrun (goal_beside_ne h hrun)
  | publish => exact absurd rfl hstep

theorem keepsFile_runPlan (h : ¬ BesideItself path) {steps : List SaveStep}
    (hsteps : .publish ∉ steps) (disk : Disk) :
    Disk.KeepsFile (disk.goal path) disk (runPlan path content steps disk).1 := by
  -- Induction on the steps that are left, over any disk: each keeps the file, and the place that
  -- the path leads to.
  induction steps generalizing disk with
  | nil => exact Disk.keepsFile_refl _ _
  | cons step steps ih =>
    rw [List.mem_cons, not_or] at hsteps
    rw [runPlan]
    cases hrun : step.run path content disk with
    | error fault => exact Disk.keepsFile_refl _ _
    | ok next =>
      have hnext := keepsFile_step h (Ne.symm hsteps.1) hrun
      have hrest := ih hsteps.2 next
      -- the rest keeps it where the path leads after the step, which is where it led before
      rw [hnext.toKeepsDirectories.goal] at hrest
      exact hnext.trans hrest

/-- No step up to the last byte touches the file itself. -/
theorem publish_not_mem_fillingPlan (counts : List Nat) : .publish ∉ fillingPlan counts := by
  simp [fillingPlan]

/-- **Broken off before the last step**, a save has kept the file. -/
theorem Cut.keepsFile (hcut : Cut path content disk after) (h : ¬ BesideItself path) :
    Disk.KeepsFile (disk.goal path) disk after := by
  cases hcut with
  | making hmade => exact Disk.keepsFile_makeDirectoriesFrom hmade _
  | filling counts steps =>
    exact keepsFile_runPlan h
      (fun hmem => publish_not_mem_fillingPlan counts (List.mem_of_mem_take hmem)) disk

/-! ## §4. Going through. -/

/-- A plan that goes through goes through before its last step, and in it. -/
theorem runPlan_concat_eq_ok {steps : List SaveStep} {last : SaveStep}
    (h : runPlan path content (steps ++ [last]) disk = (after, .ok ())) :
    ∃ middle, runPlan path content steps disk = (middle, .ok ()) ∧
      last.run path content middle = .ok after := by
  rw [runPlan_concat] at h
  -- the last step is only reached when those before it went through
  cases hsteps : runPlan path content steps disk with
  | mk middle result =>
    rw [hsteps] at h
    cases result with
    | error fault => cases h
    | ok _ =>
      cases hlast : last.run path content middle with
      | error fault =>
        simp only [hlast] at h
        cases h
      | ok next =>
        simp only [hlast] at h
        cases h
        exact ⟨middle, rfl, hlast⟩

/-- A plan that goes through and is to move all bytes leaves them in the file. -/
theorem read_of_piecemealPlan {counts : List Nat}
    (h : runPlan path content (piecemealPlan counts content) disk = (after, .ok ())) :
    after.read path = .ok content := by
  obtain ⟨filled, hfilling, hmove⟩ := runPlan_concat_eq_ok h
  -- the last write before the move has left all bytes beside
  have hlast : fillingPlan (counts ++ [content.length]) =
      fillingPlan counts ++ [.fill content.length] := by
    simp [fillingPlan]
  rw [hlast] at hfilling
  obtain ⟨middle, -, hfill⟩ := runPlan_concat_eq_ok hfilling
  rw [SaveStep.run, List.take_length] at hfill
  exact Disk.read_rename hmove (Disk.read_write hfill)

/-- All steps together either are broken off before the last, or leave the
content in the file. -/
theorem runPlan_piecemeal (counts : List Nat) {result : Except Disk.Fault Unit}
    (h : runPlan path content (piecemealPlan counts content) disk = (after, result)) :
    Cut path content disk after ∧ (∃ fault, result = .error fault) ∨
      result = .ok () ∧ after.read path = .ok content := by
  cases result with
  | ok _ => exact .inr ⟨rfl, read_of_piecemealPlan h⟩
  | error fault =>
    refine .inl ⟨?_, fault, rfl⟩
    -- whatever the filling left is a cut at its full length
    have hcut : Cut path content disk (runPlan path content
        ((fillingPlan (counts ++ [content.length])).take
          (fillingPlan (counts ++ [content.length])).length) disk).1 := .filling _ _
    rw [List.take_length] at hcut
    rw [piecemealPlan, runPlan_concat] at h
    cases hfilling : runPlan path content (fillingPlan (counts ++ [content.length])) disk with
    | mk filled outcome =>
      rw [hfilling] at h hcut
      cases outcome with
      | error fault =>
        cases h
        exact hcut
      | ok _ =>
        -- the move has failed and left the disk as it was before
        cases hmove : SaveStep.publish.run path content filled with
        | error fault =>
          simp only [hmove] at h
          cases h
          exact hcut
        | ok moved =>
          simp only [hmove] at h
          cases h

/-- A save that fails was broken off. -/
theorem cut_of_save {store : Store} {fault : Disk.Fault}
    (h : save path store disk = (after, .error fault)) : Cut path store.write disk after := by
  rw [save, savePlan_eq] at h
  rcases runPlan_piecemeal [] h with ⟨hcut, -⟩ | ⟨hok, -⟩
  · exact hcut
  · cases hok

/-- Wherever replacing a store's file stops, the file is as it was or has all
of the new content: as it was where it stops before the last step and where it
fails, the new content where it goes through. -/
theorem kept_or_replaced (h : ¬ BesideItself path) (store : Store) (disk : Disk) :
    (∀ counts steps,
      Disk.KeepsFile (disk.goal path) disk (stopAfter path store.write counts steps disk) ∨
        (stopAfter path store.write counts steps disk).read path = .ok store.write) ∧
    (∀ after, Cut path store.write disk after → Disk.KeepsFile (disk.goal path) disk after) ∧
    (∀ after fault, save path store disk = (after, .error fault) →
      Disk.KeepsFile (disk.goal path) disk after) ∧
    ∀ after, save path store disk = (after, .ok ()) → after.read path = .ok store.write := by
  refine ⟨fun counts steps => ?_, fun after hcut => hcut.keepsFile h,
    fun after fault hsave => (cut_of_save hsave).keepsFile h, fun after hsave => read_save hsave⟩
  unfold stopAfter
  by_cases hshort : steps ≤ (fillingPlan (counts ++ [store.write.length])).length
  · -- short of the last step
    rw [piecemealPlan, List.take_append_of_le_length hshort]
    exact .inl ((Cut.filling _ _).keepsFile h)
  · -- nothing is left out, so the plan ran to its end or to a fault
    have hall : (piecemealPlan counts store.write).length ≤ steps := by
      rw [piecemealPlan, List.length_append, List.length_singleton]
      omega
    rw [List.take_of_length_le hall]
    rcases runPlan_piecemeal counts rfl with ⟨hcut, -⟩ | ⟨-, hread⟩
    · exact .inl (hcut.keepsFile h)
    · exact .inr hread

/-- A disk with a store's file. -/
def shelfDisk : Disk :=
  ⟨[(["s.json"], .file shelf.write)], []⟩

/-- A name with another extension is not that of a file beside. -/
theorem not_besideItself_shelfPath : ¬ BesideItself shelfPath := by
  rintro ⟨front, -, hname⟩
  have hsame : "s.json" = front ++ ".tmp" := Option.some.inj hname
  have hlast := congrArg (fun name => name.toList.getLast?) hsame
  simp [String.toList_append] at hlast

/-- A file that is replaced by the empty store, in whatever pieces. -/
theorem shelf_kept_or_replaced : shelfDisk.read shelfPath = .ok shelf.write ∧
    ∀ counts steps,
      (stopAfter shelfPath empty.write counts steps shelfDisk).read shelfPath =
          .ok shelf.write ∨
        (stopAfter shelfPath empty.write counts steps shelfDisk).read shelfPath =
          .ok empty.write := by
  have hread : shelfDisk.read shelfPath = .ok shelf.write := by decide +kernel
  refine ⟨hread, fun counts steps => ?_⟩
  obtain ⟨hstops, -⟩ := kept_or_replaced not_besideItself_shelfPath empty shelfDisk
  -- where the file is kept, what is read of it is what was read before
  rcases hstops counts steps with hkept | hreplaced
  · exact .inl (hkept.read hread)
  · exact .inr hreplaced

/-! ## §5. A file beside itself. -/

/-- Where the file is beside itself, it is the file that has part of the new
content while that is being written. -/
theorem BesideItself.partly_written (h : BesideItself path) (hplain : path.ending = .plain)
    {old : Text.Bytes} (hread : disk.read path = .ok old) (content : Text.Bytes) (count : Nat) :
    ∃ after, Cut path content disk after ∧ after.read path = .ok (content.take count) := by
  have hbeside : besidePath path = path := by
    rw [h.besidePath_eq, ← hplain]
  obtain ⟨place, hplace, hnode, -⟩ := Disk.read_eq_ok_iff.mp hread
  obtain ⟨front, -, hname⟩ := h
  have hnames : Disk.namesFile path = true := by
    rw [Disk.namesFile, hname, hplain]
    rfl
  have hcreated : disk.write path [] = .ok (disk.put place (.file [])) :=
    Disk.write_eq_ok_iff.mpr ⟨place, hplace, Disk.ne_directory hnode, hnames, rfl⟩
  obtain ⟨written, hwritten⟩ := Disk.write_again hcreated (content.take count)
  -- emptied first and then filled with as many bytes as were asked
  have hstop : (runPlan path content ((fillingPlan [count]).take 3) disk).1 = written := by
    simp only [fillingPlan, List.map, List.take, runPlan, SaveStep.run,
      withParents_of_read hread, hbeside, hcreated, hwritten]
  refine ⟨_, .filling [count] 3, ?_⟩
  rw [hstop]
  exact Disk.read_write hwritten

/-- Even so, what is on the disk only keeps the first steps from being taken,
and then the file is as it was. -/
theorem keepsFile_of_save {store : Store} {fault : Disk.Fault} (hplain : path.ending = .plain)
    (hsave : save path store disk = (after, .error fault)) :
    Disk.KeepsFile (disk.goal path) disk after := by
  -- Only a file beside itself needs an argument: nothing keeps it from being filled once it was
  -- emptied.
  by_cases h : BesideItself path
  · have hbeside : besidePath path = path := by
      rw [h.besidePath_eq, ← hplain]
    cases hmade : withParents path disk with
    | error fault' =>
      simp only [save, savePlan, runPlan, SaveStep.run, hmade] at hsave
      cases hsave
      exact Disk.keepsFile_refl _ _
    | ok made =>
      cases hcreated : made.write (besidePath path) [] with
      | error fault' =>
        simp only [save, savePlan, runPlan, SaveStep.run, hmade, hcreated] at hsave
        cases hsave
        exact keepsFile_withParents hmade _
      | ok created =>
        -- the file can be filled then, and moved onto itself
        obtain ⟨filled, hfilled⟩ := Disk.write_again hcreated store.write
        obtain ⟨-, -, -, hnames, -⟩ := Disk.write_eq_ok_iff.mp hcreated
        obtain ⟨place, hplace, hnode, -⟩ := Disk.read_eq_ok_iff.mp (Disk.read_write hfilled)
        have hmoved := Disk.rename_eq_ok_iff.mpr ⟨place, place, store.write, hplace,
          hbeside ▸ hplace, hnode, hbeside ▸ hnames, Disk.ne_directory hnode, rfl⟩
        have hok := save_eq_ok_iff.mpr ⟨made, created, filled, hmade, hcreated, hfilled, hmoved⟩
        rw [hsave] at hok
        cases hok
  · exact (cut_of_save hsave).keepsFile h

/-- A path whose name is that of a file beside. -/
def temporaryPath : Disk.Path :=
  ⟨false, [.into "s.tmp"], .plain⟩

/-- The same path with a slash behind it. -/
def temporarySlashPath : Disk.Path :=
  ⟨false, [.into "s.tmp"], .slash⟩

/-- A write that stops on the way leaves a file in which there is no store any
more.  Where the path ends in a slash, the file beside can be written but not
moved, and a store that was there to be opened is not after the write was
refused. -/
theorem stopped_write_loses_store :
    (∃ disk after, Saved.load temporaryPath disk = .ok ⟨temporaryPath, shelf⟩ ∧
      disk.read temporaryPath = .ok shelf.write ∧
      Cut temporaryPath empty.write disk after ∧ after.read temporaryPath = .ok [] ∧
      shelf.write ≠ [] ∧ empty.write ≠ [] ∧
      Saved.load temporaryPath after = .error .json) ∧
    ∃ after, Saved.load temporarySlashPath Disk.empty = .ok ⟨temporarySlashPath, empty⟩ ∧
      (Deed.update (.register 1)).run ⟨temporarySlashPath, empty⟩ Disk.empty =
        (.error (.disk .notDirectory), ⟨temporarySlashPath, empty⟩, after) ∧
      Saved.load temporarySlashPath after = .error (.disk .notDirectory) := by
  have hitself : BesideItself temporaryPath := ⟨"s", by decide, by decide⟩
  constructor
  · have hread : Disk.read ⟨[(["s.tmp"], .file shelf.write)], []⟩ temporaryPath =
        .ok shelf.write := by decide +kernel
    obtain ⟨after, hcut, hempty⟩ := hitself.partly_written rfl hread empty.write 0
    rw [List.take_zero] at hempty
    refine ⟨_, after, ?_, hread, hcut, hempty, by decide +kernel, by decide +kernel, ?_⟩
    · simp only [Saved.load, hread, read?_write]
    · have hnothing : Store.read? [] = none := by decide +kernel
      simp only [Saved.load, hempty, hnothing]
  · have hslash : BesideItself temporarySlashPath := ⟨"s", by decide, by decide⟩
    have hparents : withParents temporarySlashPath Disk.empty = .ok Disk.empty :=
      withParents_eq_self fun above habove => by
        cases habove
        exact .inl rfl
    have hplain : besidePath temporarySlashPath = temporaryPath := hslash.besidePath_eq
    have hsource : Disk.empty.locate temporaryPath = .ok ["s.tmp"] := by decide +kernel
    have htarget : Disk.empty.locate temporarySlashPath = .ok ["s.tmp"] := by decide +kernel
    -- both writes go through, and leave the names where they lead
    have hcreated : Disk.empty.write temporaryPath [] =
        .ok (Disk.empty.put ["s.tmp"] (.file [])) :=
      Disk.write_eq_ok_iff.mpr ⟨["s.tmp"], hsource, by decide +kernel, rfl, rfl⟩
    obtain ⟨filled, hfilled⟩ := Disk.write_again hcreated (empty.register 1).2.write
    have hkeeps := (Disk.keeps_write hcreated).trans (Disk.keeps_write hfilled)
    have hsource' := Disk.locate_keeps hkeeps hsource
    have htarget' := Disk.locate_keeps hkeeps htarget
    obtain ⟨place, hplace, hnode, -⟩ := Disk.read_eq_ok_iff.mp (Disk.read_write hfilled)
    cases hsource'.symm.trans hplace
    have hmoved : filled.rename temporaryPath temporarySlashPath = .error .notDirectory := by
      rw [Disk.rename, hsource', htarget']
      simp only [bind, Except.bind, hnode]
      rfl
    have hread : filled.read temporarySlashPath = .error .notDirectory := by
      rw [Disk.read, htarget']
      simp only [bind, Except.bind, hnode]
      rfl
    have hnone : Disk.empty.read temporarySlashPath = .error .notFound := by decide +kernel
    refine ⟨filled, ?_, ?_, ?_⟩
    · rw [Saved.load, hnone]
    · simp only [Deed.run, Saved.update, Change.apply, granted, save, savePlan, runPlan,
        SaveStep.run, hparents, hplain, hcreated, List.take_length, hfilled, hmoved]
      rfl
    · rw [Saved.load, hread]

end Store

end BoardRelay
