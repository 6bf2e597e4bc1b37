/-
  BoardRelay.Proofs.Staging.Solo
  ────────────────────────────────
  A call on a staging area by itself, whatever it meets with: what it fetches
  or not, a space that is there or not, a write that a fault ends anywhere, a
  move that fails.  A save of a video comes to one of three ends
  (`Journey.solo`): it has failed and nothing is left of it, one more
  holds the file, or the file is there for one holder.  To let the file go
  again undoes each of the latter two (`Journey.freed`).
-/
import BoardRelay.Proofs.Staging.Alone

namespace BoardRelay

/-- What was taken because it fitted may be given back as if nothing had been. -/
theorem Ledger.release_take {size : UInt64} {ledger : Ledger} (h : ledger.fits size = true) :
    (ledger.take size).release size = ledger := by
  obtain ⟨budget, loaded⟩ := ledger
  have hloaded : ((Ledger.take size ⟨budget, loaded⟩).release size).loaded = loaded := by
    rw [← UInt64.toNat_inj, toNat_release, toNat_take h]
    show loaded.toNat + size.toNat - size.toNat = loaded.toNat
    omega
  exact congrArg (Ledger.mk budget) hloaded

namespace Disk

/-- Whether a disk is another but for files at some paths, none of which is
there any more. -/
structure Swept (paths : List Path) (disk left : Disk) : Prop where
  changes : ChangesOnly paths disk left
  gone {path : Path} : path ∈ paths → ∀ content, left.read path ≠ .ok content

theorem swept_refl (disk : Disk) : Swept [] disk disk :=
  ⟨changesOnly_refl _ _, nofun⟩

variable {disk left : Disk} {paths : List Path} {directory : Path}

/-- Files that are gone do not come back while others of their directory are
swept. -/
theorem ChangesOnly.swept {more : List Path} (h : ChangesOnly (paths ++ more) disk left)
    (hgone : ∀ path ∈ paths, ∀ content, left.read path ≠ .ok content) {last : Disk}
    (hswept : Swept more left last) (hentries : ∀ path ∈ paths ++ more, IsEntry directory path) :
    Swept (paths ++ more) disk last := by
  refine ⟨(h.trans hswept.changes).mono (by simp), fun {path} hpath content hread => ?_⟩
  by_cases hagain : path ∈ more
  · exact hswept.gone hagain content hread
  · have hbefore := (List.mem_append.mp hpath).resolve_right hagain
    refine hgone path hbefore content
      ((hswept.changes.read_iff (hentries path hpath) ?_ hagain).mp hread)
    exact fun other hother => hentries other (List.mem_append_right _ hother)

/-- No file is there that was not before. -/
theorem Swept.file (h : Swept paths disk left) (hentries : ∀ path ∈ paths, IsEntry directory path)
    {place : Place} {content : Text.Bytes} (hfile : left.node? place = some (.file content)) :
    disk.node? place = some (.file content) := by
  rcases h.changes.node_cases place with ⟨path, hpath, hplace⟩ | hsame
  · refine absurd (read_eq_ok_iff.mpr ⟨place, h.changes.locate_iff.mpr hplace, hfile, ?_⟩)
      (h.gone hpath content)
    exact ending_of_namesFile (hentries path hpath).namesFile
  · rwa [← hsame]

/-- Where no swept file was before, the disk is as it was. -/
theorem Swept.node?_eq (h : Swept paths disk left)
    (hentries : ∀ path ∈ paths, IsEntry directory path)
    (hbare : ∀ path ∈ paths, ∀ content, disk.read path ≠ .ok content) (place : Place) :
    left.node? place = disk.node? place := by
  rcases h.changes.node_cases place with ⟨path, hpath, hplace⟩ | hsame
  · -- at such a path there is a directory, before and after, or nothing
    have hplain := ending_of_namesFile (hentries path hpath).namesFile
    have hnone : ∀ {disk : Disk}, disk.locate path = .ok place →
        (∀ content, disk.read path ≠ .ok content) → disk.node? place ≠ some .directory →
        disk.node? place = none := by
      intro disk hplace hread hfree
      cases hnode : disk.node? place with
      | none => rfl
      | some node =>
        cases node with
        | directory => exact absurd hnode hfree
        | file content =>
          exact absurd (read_eq_ok_iff.mpr ⟨place, hplace, hnode, hplain⟩) (hread content)
    by_cases hdirectory : disk.node? place = some .directory
    · rw [hdirectory, (h.changes.directory place).mpr hdirectory]
    · rw [hnone hplace (hbare path hpath) hdirectory,
        hnone (h.changes.locate_iff.mpr hplace) (h.gone hpath)
          (mt (h.changes.directory place).mp hdirectory)]
  · exact hsame

/-- What is there under a file name is a directory or a file. -/
theorem isThere_iff {path : Path} (hnames : namesFile path = true) : disk.isThere path = true ↔
    disk.isDirectory path = true ∨ ∃ content, disk.read path = .ok content := by
  have hplain := ending_of_namesFile hnames
  rw [isDirectory_iff, isThere, lookup?]
  simp only [read_eq_ok_iff]
  cases disk.locate path with
  | error fault => simp
  | ok place =>
    cases hnode : disk.node? place with
    | none => simp [hnode]
    | some node => cases node <;> simp [hnode, hplain]

theorem ChangesOnly.isDirectory_iff (h : ChangesOnly paths disk left) {path : Path} :
    left.isDirectory path = true ↔ disk.isDirectory path = true := by
  simp only [Disk.isDirectory_iff, h.locate_iff, h.directory]

/-- A file that is moved away is gone. -/
theorem no_read_source {source target : Path} (h : disk.rename source target = .ok left)
    (hsource : IsEntry directory source) (htarget : IsEntry directory target)
    (hne : source ≠ target) (content : Text.Bytes) : left.read source ≠ .ok content := by
  intro hread
  obtain ⟨place, hplace, hfile, -⟩ := read_eq_ok_iff.mp hread
  have hbefore := (changesOnly_rename h).locate_iff.mp hplace
  rw [node?_rename_source h hsource htarget hne hbefore] at hfile
  cases hfile

end Disk

namespace Staging

/-- A removal that is not hindered sweeps up its path. -/
theorem Removal.swept {disk left : Disk} {path directory : Disk.Path}
    (h : Removal none disk path left) (hentry : Disk.IsEntry directory path) :
    Disk.Swept [path] disk left := by
  refine ⟨h.changesOnly, fun hmem content => ?_⟩
  rw [List.mem_singleton.mp hmem]
  exact h.no_content hentry.namesFile content

/-! ## §1. A call by itself. -/

/-- What becomes of a task when only it takes turns: steps that a fault may
strike, unless they remove a file, a write that is broken off, and the end of
patience. -/
inductive Task.Solo (fetch : String → Except Http.Error Text.Bytes) :
    Task → Area → Disk → Result → Area → Disk → Prop
  | done (result : Result) (area : Area) (disk : Disk) :
    Solo fetch (.done result) area disk result area disk
  | work {task : Task} {area after : Area} {disk left : Disk} {result : Result}
    (struck : Option Disk.Fault) : (task.removes = true → struck = none) →
    Solo fetch (step fetch struck task area disk).1 (step fetch struck task area disk).2.1
      (step fetch struck task area disk).2.2 result after left →
    Solo fetch task area disk result after left
  | breakOff {task : Task} {area after : Area} {disk left : Disk} {result : Result}
    (written : Nat) (fault : Disk.Fault) :
    Solo fetch (task.breakOff written fault area disk).1 (task.breakOff written fault area disk).2.1
      (task.breakOff written fault area disk).2.2 result after left →
    Solo fetch task area disk result after left
  | giveUp {task : Task} {area after : Area} {disk left : Disk} {result : Result} :
    Solo fetch task.giveUp area disk result after left →
    Solo fetch task area disk result after left

/-- With no fault, that is what the task comes to with nobody around. -/
theorem Task.solo_run (fetch : String → Except Http.Error Text.Bytes) (task : Task) (area : Area)
    (disk : Disk) : Solo fetch task area disk (run fetch task area disk).1
      (run fetch task area disk).2.1 (run fetch task area disk).2.2 := by
  induction task, area, disk using Task.run.induct fetch with
  | case1 task area disk result hresult =>
    rw [run_of_result hresult]
    cases task with
    | done other =>
      cases hresult
      exact .done _ _ _
    | _ => cases hresult
  | case2 task area disk size hresult hshort =>
    rw [run_of_short hresult hshort]
    -- whoever waits for space gives up
    cases task with
    | reserving locator content =>
      simp only [shortage?] at hshort
      split at hshort
      · cases hshort
      · cases hshort
        exact .giveUp (.done _ _ _)
    | _ => cases hshort
  | case3 task area disk hresult hfree next ih =>
    rw [run_of_free hresult hfree]
    exact .work none (fun _ => rfl) ih

/-! ## §2. A save by itself. -/

/-- Whether an area counts and holds what another does. -/
structure Area.Alike (area other : Area) : Prop where
  root_eq : other.root = area.root
  ledger_eq : other.ledger = area.ledger
  holding?_eq (path : Disk.Path) : other.holding? path = area.holding? path

theorem Area.alike_refl (area : Area) : area.Alike area :=
  ⟨rfl, rfl, fun _ => rfl⟩

/-- How far a save is, by the area and the disk when it began. -/
inductive Journey (locator : String) (area : Area) (disk : Disk) : Task → Area → Disk → Prop
  | looking : Journey locator area disk (.looking locator) area disk
  | fetching : area.holding? (area.place locator) = none →
    Journey locator area disk (.fetching locator) area disk
  | reserving (content : Text.Bytes) : area.holding? (area.place locator) = none →
    Journey locator area disk (.reserving locator content) area disk
  | writing {content : Text.Bytes} : area.holding? (area.place locator) = none →
    area.ledger.fits (sizeOf content) = true →
    Journey locator area disk (.writing locator content) (area.take (sizeOf content)) disk
  | settling {content : Text.Bytes} {written : Disk} :
    area.holding? (area.place locator) = none → area.ledger.fits (sizeOf content) = true →
    disk.write (area.part locator) content = .ok written →
    Journey locator area disk (.settling locator content (area.part locator))
      ((area.take (sizeOf content)).beginning locator) written
  | owing {content : Text.Bytes} {left : Disk} (e : Error) :
    area.ledger.fits (sizeOf content) = true →
    Disk.ChangesOnly [area.part locator] disk left →
    Journey locator area disk
      (.givingBack (sizeOf content) (some (area.part locator)) (.error e))
      ((area.take (sizeOf content)).beginning locator) left
  | clearing {after : Area} {left : Disk} (e : Error) : area.Alike after →
    Disk.ChangesOnly [area.part locator] disk left →
    Journey locator area disk (.clearing (area.part locator) (.error e)) after left
  /-- Nothing is left of a save that failed. -/
  | failed {after : Area} {left : Disk} {paths : List Disk.Path} (e : Error) : area.Alike after →
    (∀ path ∈ paths, path = area.part locator) → Disk.Swept paths disk left →
    Journey locator area disk (.done (.error e)) after left
  /-- One more holds the file. -/
  | joined {holding : Holding} : area.holding? (area.place locator) = some holding →
    Journey locator area disk (.done (.ok (area.place locator)))
      (area.withHolding (area.place locator) { holding with holders := holding.holders + 1 }) disk
  /-- The file is there for one holder. -/
  | placed {content : Text.Bytes} {written left : Disk} :
    area.holding? (area.place locator) = none → area.ledger.fits (sizeOf content) = true →
    disk.write (area.part locator) content = .ok written →
    written.rename (area.part locator) (area.place locator) = .ok left →
    Journey locator area disk (.done (.ok (area.place locator)))
      (((area.take (sizeOf content)).beginning locator).withHolding (area.place locator)
        ⟨sizeOf content, 1⟩) left

section Journey

variable {locator : String} {area after after' : Area} {disk left left' : Disk} {task task' : Task}
  {offer : Option Text.Bytes} {struck : Option Disk.Fault}

/-- Nothing is left of a save that failed before it took any space. -/
theorem Journey.unbegun (e : Error) : Journey locator area disk (.done (.error e)) area disk :=
  .failed e area.alike_refl (fun path hpath => by cases hpath) (Disk.swept_refl disk)

/-- **Each step of a call that nobody disturbs leads on along its journey.** -/
theorem Journey.moves (h : Journey locator area disk task after left)
    (hvideo : isVideo locator = true)
    (hmoves : Task.Moves offer struck after left task task' after' left')
    (hcalm : task.removes = true → struck = none) :
    Journey locator area disk task' after' left' := by
  have hpart := (area.isPart_part hvideo).isEntry
  cases h with
  | looking =>
    cases hmoves with
    | rests => exact .looking
    | found hholding => exact .joined hholding
    | missing hnone => exact .fetching hnone
  | fetching hnone =>
    cases hmoves with
    | rests => exact .fetching hnone
    | unfetched => exact .unbegun _
    | fetched => exact .reserving _ hnone
  | reserving content hnone =>
    cases hmoves with
    | rests => exact .reserving _ hnone
    | refused => exact .unbegun _
    | reserved hfits => exact .writing hnone hfits
  | writing hnone hfits =>
    cases hmoves with
    | rests => exact .writing hnone hfits
    | unwritten hleft =>
      refine .owing _ hfits ?_
      -- nothing was written, or a part of the content
      rcases hleft with rfl | ⟨written, hwrite⟩
      · exact Disk.changesOnly_refl _ _
      · exact Disk.changesOnly_write hwrite
    | written hwrite => exact .settling hnone hfits hwrite
  | settling hnone hfits hwrite =>
    cases hmoves with
    | rests => exact .settling hnone hfits hwrite
    | unmoved => exact .owing _ hfits (Disk.changesOnly_write hwrite)
    | shared hrename hholding => cases hnone.symm.trans hholding
    | settled hrename => exact .placed hnone hfits hwrite hrename
  | owing e hfits hchanges =>
    cases hmoves with
    | rests => exact .owing e hfits hchanges
    | owesClearing =>
      exact .clearing e ⟨rfl, Ledger.release_take hfits, fun _ => rfl⟩ hchanges
  | clearing e halike hchanges =>
    cases hmoves with
    | rests => exact .clearing e halike hchanges
    | cleared hremoval =>
      -- the file that was begun can be removed
      cases hcalm rfl
      have hswept := hremoval.swept hpart
      refine .failed e halike ?_ ⟨hchanges.trans hswept.changes, ?_⟩
      · simp
      · intro path hpath
        exact hswept.gone (by simpa using hpath)
  | failed e halike hpaths hswept =>
    cases hmoves with
    | rests => exact .failed e halike hpaths hswept
  | joined hholding =>
    cases hmoves with
    | rests => exact .joined hholding
  | placed hnone hfits hwrite hrename =>
    cases hmoves with
    | rests => exact .placed hnone hfits hwrite hrename

/-- A save by itself gets to its end. -/
theorem Journey.solo {fetch : String → Except Http.Error Text.Bytes} {result : Result}
    (hsolo : Task.Solo fetch task after left result after' left') (hvideo : isVideo locator = true)
    (h : Journey locator area disk task after left) :
    Journey locator area disk (.done result) after' left' := by
  induction hsolo with
  | done result after left => exact h
  | work struck hcalm hrest ih => exact ih (h.moves hvideo (Task.moves_offer _ struck _ _ _) hcalm)
  | breakOff written fault hrest ih =>
    exact ih (h.moves hvideo (Task.moves_breakOff written fault _ _ _) fun _ => rfl)
  | giveUp hrest ih => exact ih (h.moves hvideo (Task.moves_giveUp _ _ _) fun _ => rfl)

/-- A call that has failed leaves the area alike, and no file of its own. -/
theorem Journey.eq_failed {e : Error}
    (h : Journey locator area disk (.done (.error e)) after left) :
    area.Alike after ∧ ∃ paths, (∀ path ∈ paths, path = area.part locator) ∧
      Disk.Swept paths disk left := by
  cases h with
  | failed _ halike hpaths hswept => exact ⟨halike, _, hpaths, hswept⟩

/-- A video that a save has staged had a holder before, or has its first. -/
theorem Journey.saved_cases {staged : Disk.Path} (h : Journey locator area disk task after left)
    (hsaved : task = .done (.ok staged)) :
    (∃ holding, area.holding? (area.place locator) = some holding ∧ left = disk ∧
      after = area.withHolding (area.place locator)
        { holding with holders := holding.holders + 1 }) ∨
    ∃ content written, area.holding? (area.place locator) = none ∧
      area.ledger.fits (sizeOf content) = true ∧
      disk.write (area.part locator) content = .ok written ∧
      written.rename (area.part locator) (area.place locator) = .ok left ∧
      after = ((area.take (sizeOf content)).beginning locator).withHolding (area.place locator)
        ⟨sizeOf content, 1⟩ := by
  -- the file was held already, or it was fetched; every other way ends in an error
  cases h with
  | joined hholding => exact .inl ⟨_, hholding, rfl, rfl⟩
  | placed hnone hfits hwrite hrename => exact .inr ⟨_, _, hnone, hfits, hwrite, hrename, rfl⟩
  | _ => simp at hsaved

/-- A call that is answered leaves the area in its directory. -/
theorem Journey.root_eq {staged : Disk.Path}
    (h : Journey locator area disk (.done (.ok staged)) after left) : after.root = area.root := by
  rcases h.saved_cases rfl with ⟨holding, -, -, rfl⟩ | ⟨content, written, -, -, -, -, rfl⟩
  · rfl
  · rfl

end Journey

/-! ## §3. Letting the file go. -/

theorem Area.place_withHolding (path : Disk.Path) (holding : Holding) (area : Area)
    (locator : String) : (area.withHolding path holding).place locator = area.place locator :=
  place_of_root rfl locator

/-- A holding that was another in between is as it was. -/
theorem Area.alike_withHolding {area : Area} {path : Disk.Path} {holding : Holding}
    (h : area.holding? path = some holding) (other : Holding) :
    area.Alike ((area.withHolding path other).withHolding path holding) := by
  refine ⟨rfl, rfl, fun place => ?_⟩
  by_cases hplace : place = path
  · rw [hplace, holding?_withHolding, h]
  · rw [holding?_withHolding_of_ne hplace, holding?_withHolding_of_ne hplace]

/-- So is an area that held one more file in between. -/
theorem Area.alike_withoutHolding {area : Area} {path : Disk.Path} {size : UInt64}
    (hnone : area.holding? path = none) (hfits : area.ledger.fits size = true) (locator : String)
    (holding : Holding) :
    area.Alike (((((area.take size).beginning locator).withHolding path holding).withoutHolding
      path).giveBack size) := by
  refine ⟨rfl, Ledger.release_take hfits, fun place => ?_⟩
  show ((((area.take size).beginning locator).withHolding path holding).withoutHolding
    path).holding? place = area.holding? place
  by_cases hplace : place = path
  · rw [hplace, holding?_withoutHolding, hnone]
  · rw [holding?_withoutHolding_of_ne hplace, holding?_withHolding_of_ne hplace]
    rfl

section Free

variable {locator : String} {area : Area} {path : Disk.Path} {holding : Holding}

/-- To let a video go that others hold is to be one holder less. -/
theorem Area.free_of_others (hvideo : isVideo locator = true) (hpath : area.place locator = path)
    (hholding : area.holding? path = some holding) (hothers : 1 < holding.holders)
    (disk : Disk) : (area.free locator disk).2 =
      (area.withHolding path { holding with holders := holding.holders - 1 }, disk) := by
  have hstep : Task.step (fun _ => .error .truncated) none (.freeing locator) area disk =
      (.done (.ok path), area.withHolding path { holding with holders := holding.holders - 1 },
        disk) := by
    simp only [Task.step, Task.free, hvideo, hpath, hholding, if_pos hothers]
    rfl
  rw [Area.free, Task.run_of_free rfl rfl, hstep, Task.run_of_result rfl]

/-- To let it go as the last holder is to remove its file and give its size
back, whether there was a file to remove or not. -/
theorem Area.free_of_last (hvideo : isVideo locator = true) (hpath : area.place locator = path)
    (hholding : area.holding? path = some holding) (hlast : holding.holders ≤ 1) (disk : Disk) :
    (area.free locator disk).2.1 = (area.withoutHolding path).giveBack holding.size ∧
      Removal none disk path (area.free locator disk).2.2 := by
  -- whether the file can be removed or not, the holding goes and its size is given back
  have hremoval := Task.removal_attempt none disk path
  obtain ⟨result, left, hstep, hleft⟩ : ∃ result left,
      Task.step (fun _ => .error .truncated) none (.freeing locator) area disk =
        (.givingBack holding.size none result, area.withoutHolding path, left) ∧
      Removal none disk path left := by
    have hnot : ¬ 1 < holding.holders := Nat.not_lt.mpr hlast
    simp only [Task.step, Task.free, hvideo, hpath, hholding, if_neg hnot]
    cases hattempt : Task.attempt none (disk.remove path) with
    | ok left =>
      rw [hattempt] at hremoval
      exact ⟨_, left, rfl, hremoval⟩
    | error fault =>
      rw [hattempt] at hremoval
      exact ⟨_, disk, rfl, hremoval⟩
  -- two steps: the holding is let go, then its size is given back
  rw [Area.free, Task.run_of_free rfl rfl, hstep, Task.run_of_free rfl rfl, Task.step,
    Task.run_of_result rfl]
  exact ⟨rfl, hleft⟩

end Free

/-- To let a video go that a save has just staged undoes the save, whatever
became of another file of the directory in between: the area is as it was, and
the save has left no file, be it beside the video or, where nobody else holds
it, the video. -/
theorem Journey.freed {locator : String} {area after : Area} {disk left between : Disk}
    {staged other : Disk.Path} (h : Journey locator area disk (.done (.ok staged)) after left)
    (hvideo : isVideo locator = true)
    (hheld : ∀ holding, area.holding? (area.place locator) = some holding → 0 < holding.holders)
    (hother : Disk.IsEntry area.root other) (hne : other ≠ area.part locator)
    (hbetween : Disk.ChangesOnly [other] left between) :
    area.Alike (after.free locator between).2.1 ∧ ∃ paths,
      Disk.ChangesOnly (paths ++ [other]) disk (after.free locator between).2.2 ∧
      (∀ path ∈ paths, ∀ content, (after.free locator between).2.2.read path ≠ .ok content) ∧
      ∀ path ∈ paths, path = area.part locator ∨
        path = area.place locator ∧ area.holding? (area.place locator) = none := by
  have hplace := (area.isStaged_place hvideo).isEntry
  have hpart := (area.isPart_part hvideo).isEntry
  have hbeside := (area.isStaged_place hvideo).ne_part (area.isPart_part hvideo)
  rcases h.saved_cases rfl with
    ⟨holding, hholding, rfl, rfl⟩ | ⟨content, written, hnone, hfits, hwrite, hrename, rfl⟩
  · have hagain := Area.holding?_withHolding (area.place locator)
      { holding with holders := holding.holders + 1 } area
    rw [Area.free_of_others hvideo (Area.place_withHolding _ _ _ _) hagain
      (Nat.lt_add_of_pos_left (hheld holding hholding))]
    exact ⟨Area.alike_withHolding hholding _, [], hbetween, nofun, nofun⟩
  · have hagain := Area.holding?_withHolding (area.place locator) ⟨sizeOf content, 1⟩
      ((area.take (sizeOf content)).beginning locator)
    have hsame : ((area.take (sizeOf content)).beginning locator).place locator =
      area.place locator := Area.place_of_root rfl locator
    obtain ⟨harea, hremoval⟩ := Area.free_of_last hvideo
      ((Area.place_withHolding _ _ _ _).trans hsame) hagain (Nat.le_refl 1) between
    have hswept := hremoval.swept hplace
    refine ⟨?_, [area.part locator, area.place locator], ?_, ?_, by simp [hnone]⟩
    · rw [harea]
      exact Area.alike_withoutHolding hnone hfits _ _
    · refine Disk.ChangesOnly.mono ((((Disk.changesOnly_write hwrite).trans
        (Disk.changesOnly_rename hrename)).trans hbetween).trans hswept.changes) ?_
      simp
    · rw [List.forall_mem_cons, List.forall_mem_singleton]
      refine ⟨fun content hread => ?_, hswept.gone (List.mem_singleton_self _)⟩
      -- what was beside the video has been moved, and nothing wrote there since
      refine Disk.no_read_source hrename hpart hplace hbeside.symm content
        (((hbetween.trans hswept.changes).read_iff hpart ?_ ?_).mp hread)
      · simp [hother, hplace]
      · simp [hne.symm, hbeside.symm]

end Staging

end BoardRelay
