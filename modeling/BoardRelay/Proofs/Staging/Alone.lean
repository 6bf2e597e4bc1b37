/-
  BoardRelay.Proofs.Staging.Alone
  ────────────────────────────────
  Calls on a staging area that run from their first step to their last with
  nobody in between.  Such a call keeps held files there, changes nothing but
  its own place and files beside it, and is one holder more or one less
  (`Yard.Filled.passed`).
-/
import BoardRelay.Proofs.Staging.Content

namespace BoardRelay.Staging

/-! ## §1. From the first step to the last. -/

namespace Task

/-- The content that a task is offered when it fetches. -/
def offer (fetch : String → Except Http.Error Text.Bytes) : Task → Option Text.Bytes
  | .fetching locator => (fetch locator).toOption
  | _ => none

theorem moves_offer (fetch : String → Except Http.Error Text.Bytes) (struck : Option Disk.Fault)
    (task : Task) (area : Area) (disk : Disk) :
    Moves (task.offer fetch) struck area disk task (step fetch struck task area disk).1
      (step fetch struck task area disk).2.1 (step fetch struck task area disk).2.2 := by
  cases task with
  | fetching locator => exact moves_step (fetch locator) struck (.fetching locator) area disk
  | _ => exact moves_step (.error .truncated) struck _ area disk

/-- How a task with nobody around ends: with its result, or waiting for space
in vain. -/
inductive Ends (area : Area) : Task → Result → Prop where
  | done (result : Result) : Ends area (.done result) result
  | short {task : Task} {size : UInt64} (hshort : task.shortage? area = some size) :
    Ends area task (.error (.quotaExhausted size))

section Run

variable {fetch : String → Except Http.Error Text.Bytes} {task : Task} {area : Area} {disk : Disk}

/-- A task with a result stays as it is. -/
theorem run_of_result {result : Result} (h : task.result? = some result) :
    run fetch task area disk = (result, area, disk) := by
  rw [run]
  split
  · next heq => cases h.symm.trans heq; rfl
  · next heq _ => cases h.symm.trans heq
  · next heq _ => cases h.symm.trans heq

/-- A task that lacks space, with nobody to give any back, fails for want of
it. -/
theorem run_of_short (h : task.result? = none) {size : UInt64}
    (hshort : task.shortage? area = some size) :
    run fetch task area disk = (.error (.quotaExhausted size), area, disk) := by
  rw [run]
  split
  · next heq => cases h.symm.trans heq
  · next heq => cases hshort.symm.trans heq; rfl
  · next heq => cases hshort.symm.trans heq

/-- Any other task takes its next step and goes on. -/
theorem run_of_free (h : task.result? = none) (hfree : task.shortage? area = none) :
    run fetch task area disk = run fetch (step fetch none task area disk).1
      (step fetch none task area disk).2.1 (step fetch none task area disk).2.2 := by
  rw [run]
  split
  · next heq => cases h.symm.trans heq
  · next heq => cases hfree.symm.trans heq
  · rfl

variable (fetch) in
/-- What every step keeps holds in the end. -/
theorem run_keeps {P : Task → Area → Disk → Prop}
    (hkeeps : ∀ {task area disk task' area' disk'}, P task area disk →
      Moves (task.offer fetch) none area disk task task' area' disk' → P task' area' disk')
    (h : P task area disk) :
    ∃ last, P last (run fetch task area disk).2.1 (run fetch task area disk).2.2 ∧
      last.Ends (run fetch task area disk).2.1 (run fetch task area disk).1 := by
  -- Induction on the run itself: it ends, it falls short of room, or it takes one more step.
  induction task, area, disk using Task.run.induct fetch with
  | case1 task area disk result hresult =>
    rw [run_of_result hresult]
    cases task with
    | done other =>
      cases hresult
      exact ⟨_, h, .done _⟩
    | _ => cases hresult
  | case2 task area disk size hresult hshort =>
    rw [run_of_short hresult hshort]
    exact ⟨task, h, .short hshort⟩
  | case3 task area disk hresult hfree next ih =>
    rw [run_of_free hresult hfree]
    exact ih (hkeeps h (moves_offer fetch none task area disk))

end Run

end Task

/-! ## §2. What a call leaves behind. -/

theorem eq_ok_of_toOption {ε α : Type} {outcome : Except ε α} {value : α}
    (h : outcome.toOption = some value) : outcome = .ok value := by
  cases outcome with
  | error e => cases h
  | ok other =>
    cases h
    rfl

section Call

variable {fit : Disk.Path → Text.Bytes → Prop} {wish : Wish} {start : Yard} {before area : Area}
  {disk left : Disk} {task : Task}

/-- A change of files at a place of a directory, and of files that are being
written there. -/
def ChangesAt (root place : Disk.Path) (disk left : Disk) : Prop :=
  ∃ paths, Disk.ChangesOnly paths disk left ∧
    ∀ path ∈ paths, path = place ∨ ∃ number, IsPart root number path

theorem ChangesAt.takes_iff {root place path : Disk.Path} (h : ChangesAt root place disk left) :
    left.Takes path ↔ disk.Takes path := by
  obtain ⟨paths, hpaths, -⟩ := h
  exact hpaths.takes_iff

theorem ChangesAt.locate_iff {root place path : Disk.Path} (h : ChangesAt root place disk left)
    {at_ : Disk.Place} : left.locate path = .ok at_ ↔ disk.locate path = .ok at_ := by
  obtain ⟨paths, hpaths, -⟩ := h
  exact hpaths.locate_iff

/-- Any other file of the directory is read as before. -/
theorem ChangesAt.read_iff {root place path : Disk.Path} (h : ChangesAt root place disk left)
    (hplace : Disk.IsEntry root place) (hentry : Disk.IsEntry root path) (hne : path ≠ place)
    (hpart : ∀ number, ¬ IsPart root number path) {content : Text.Bytes} :
    left.read path = .ok content ↔ disk.read path = .ok content := by
  obtain ⟨paths, hpaths, hnames⟩ := h
  refine hpaths.read_iff hentry (fun other hother => ?_) fun hmem => ?_
  · rcases hnames other hother with rfl | ⟨number, hother⟩
    · exact hplace
    · exact hother.isEntry
  · rcases hnames path hmem with heq | ⟨number, hnumber⟩
    · exact hne heq
    · exact hpart number hnumber

/-- How far a call is that nobody disturbs, by the area and the disk when it
began. -/
structure Underway (fit : Disk.Path → Text.Bytes → Prop) (wish : Wish) (start : Yard)
    (before : Area) (disk : Disk) (task : Task) (area : Area) (left : Disk) : Prop where
  filled : Yard.Filled fit ⟨area, left, [⟨wish, task, 0, false⟩]⟩ start
  root : area.root = before.root
  others {path : Disk.Path} : path ≠ before.place wish.locator →
    area.holding? path = before.holding? path
  holders : before.holders (before.place wish.locator) + (wish.acquires && task.granted).toNat ≤
    area.holders (before.place wish.locator) + (!wish.acquires && !task.frees).toNat
  answered {path : Disk.Path} : wish.acquires = true → task.answer? = some path →
    path = before.place wish.locator
  changes : ChangesAt before.root (before.place wish.locator) disk left

/-- **Each step of a call keeps what is known of it on its way.** -/
theorem Underway.moves (h : Underway fit wish start before disk task area left)
    {offer : Option Text.Bytes} {task' : Task} {area' : Area} {left' : Disk}
    (hmoves : Task.Moves offer none area left task task' area' left')
    (hoffer : ∀ content, offer = some content → task = .fetching wish.locator →
      fit (before.place wish.locator) content) :
    Underway fit wish start before disk task' area' left' := by
  have hplace : area.place wish.locator = before.place wish.locator :=
    Area.place_of_root h.root _
  have hcall : [(⟨wish, task, 0, false⟩ : Call)][0]? = some ⟨wish, task, 0, false⟩ := rfl
  have hsound : task.Sound fit area left wish := h.filled.sound hcall
  refine ⟨?_, hmoves.root_eq.trans h.root, fun hne => ?_, ?_, fun hacquires hanswer => ?_, ?_⟩
  · refine h.filled.turned hcall hmoves (fun content hsome hfetching => ?_) 0 false
    rw [hplace]
    exact hoffer content hsome hfetching
  · rw [← hplace] at hne
    rw [hmoves.holding?_of_ne hsound.serves hne, h.others (hplace ▸ hne)]
  · -- the step counts its own call at its place; what the call has counted before is added
    have hown := hmoves.holders_le hsound
    have hbefore := h.holders
    rw [hplace] at hown
    omega
  · rcases hmoves.answer?_eq hsound.serves hacquires hanswer with hold | heq
    · exact h.answered hacquires hold
    · exact heq.trans hplace
  · obtain ⟨paths, hpaths, hnames⟩ := h.changes
    refine ⟨_, hpaths.trans (hmoves.changesOnly hsound.serves), fun path hpath => ?_⟩
    rcases List.mem_append.mp hpath with hold | hnew
    · exact hnames path hold
    · rw [← hplace, ← h.root]
      exact (hmoves.mem_touched hsound hnew).imp_left And.left

/-- What a call that has run to its end leaves. -/
structure Passed (fit : Disk.Path → Text.Bytes → Prop) (wish : Wish) (start : Yard)
    (before : Area) (disk : Disk) (result : Result) (area : Area) (left : Disk) : Prop where
  filled : Yard.Filled fit ⟨area, left, []⟩ start
  root : area.root = before.root
  others {path : Disk.Path} : path ≠ before.place wish.locator →
    area.holding? path = before.holding? path
  /-- Whoever was given a file holds it; whoever lets one go is one holder
  at most. -/
  holders : before.holders (before.place wish.locator) + (wish.acquires && result.isOk).toNat ≤
    area.holders (before.place wish.locator) + (!wish.acquires).toNat
  answered {path : Disk.Path} : wish.acquires = true → result = .ok path →
    path = before.place wish.locator
  changes : ChangesAt before.root (before.place wish.locator) disk left

/-- When the call ends, what is known of it is what a passed call owes. -/
theorem Underway.passed (h : Underway fit wish start before disk task area left) {result : Result}
    (hends : task.Ends area result) : Passed fit wish start before disk result area left := by
  obtain ⟨⟨hroot, hlocated, -, -, hheld⟩, hsame, hothers, hholders, hanswered, hchanges⟩ := h
  refine ⟨⟨hroot, hlocated, nofun, nofun, hheld⟩, hsame, hothers, ?_, ?_, hchanges⟩
  · cases hends with
    | done => simpa [Task.granted, Task.frees] using hholders
    | short hshort =>
      -- whoever waits for space has been given nothing, and has not begun to let go
      cases task with
      | reserving => simpa [Task.granted, Task.frees, Except.isOk, Except.toBool] using hholders
      | _ => cases hshort
  · intro path hacquires hresult
    cases hends with
    | done => exact hanswered hacquires (congrArg Except.toOption hresult)
    | short => cases hresult

/-- A call that nobody disturbs runs to its end. -/
theorem Yard.Filled.passed {fetch : String → Except Http.Error Text.Bytes}
    (h : Yard.Filled fit ⟨before, disk, []⟩ start) (hvideo : isVideo wish.locator = true)
    (hbrings : (Event.begin wish).Brings fit ⟨before, disk, []⟩)
    (hfetch : ∀ content, fetch wish.locator = .ok content →
      fit (before.place wish.locator) content) :
    Passed fit wish start before disk (Task.run fetch wish.task before disk).1
      (Task.run fetch wish.task before disk).2.1 (Task.run fetch wish.task before disk).2.2 := by
  have hgranted : wish.task.granted = false := by cases wish <;> rfl
  have hanswer : wish.task.answer? = none := by cases wish <;> rfl
  -- the call as it begins, before its first step
  have hbegins : Underway fit wish start before disk wish.task before disk := by
    refine ⟨h.began hvideo hbrings, rfl, fun _ => rfl, ?_, fun _ hsome => ?_,
      [], Disk.changesOnly_refl _ _, nofun⟩
    · rw [hgranted, Bool.and_false]
      exact Nat.le_add_right _ _
    · cases hanswer.symm.trans hsome
  obtain ⟨last, hlast, hends⟩ := Task.run_keeps fetch (fun hunder hmoves =>
    hunder.moves hmoves fun content hsome hfetching => hfetch content (by
      rw [hfetching] at hsome
      exact eq_ok_of_toOption hsome)) hbegins
  exact hlast.passed hends

end Call

/-! ## §3. What a call comes to. -/

section Save

variable {fetch : String → Except Http.Error Text.Bytes} {locator : String} {content : Text.Bytes}
  {area : Area} {disk : Disk} (hfetch : fetch locator = .ok content)

include hfetch

/-- A file that nobody holds is saved if it fits and can be made. -/
theorem Area.save_of_space (hnone : area.holding? (area.place locator) = none)
    (hfits : area.ledger.fits (sizeOf content) = true) (hpart : disk.Takes (area.part locator))
    (hplace : disk.Takes (area.place locator)) :
    ∃ left, area.save fetch locator disk = (.ok (area.place locator),
      ((area.take (sizeOf content)).beginning locator).withHolding (area.place locator)
        ⟨sizeOf content, 1⟩, left) := by
  obtain ⟨written, hwrite⟩ := hpart.write content
  have htakes := (Disk.changesOnly_write hwrite).takes_iff.mpr hplace
  obtain ⟨moved, hrename⟩ := htakes.rename (Disk.read_write hwrite)
  have hshortage : (Task.reserving locator content).shortage? area = none := by
    simp [Task.shortage?, hfits]
  have hsmall : area.ledger.checkSize (sizeOf content) = .ok () := by
    have hlt := Ledger.fits_iff.mp hfits
    have hnot : ¬ area.ledger.budget ≤ sizeOf content := by
      rw [UInt64.le_iff_toNat_le]
      omega
    simp [Ledger.checkSize, Ledger.tooLarge, hnot]
  -- the five steps, one after another
  have hlooks : Task.step fetch none (.looking locator) area disk =
      (.fetching locator, area, disk) := by
    simp only [Task.step, Area.hold?, hnone, Option.map_none]
  have hfetches : Task.step fetch none (.fetching locator) area disk =
      (.reserving locator content, area, disk) := by
    simp only [Task.step, hfetch]
  have hreserves : Task.step fetch none (.reserving locator content) area disk =
      (.writing locator content, area.take (sizeOf content), disk) := by
    simp only [Task.step, Task.reserve, hsmall, hfits, if_true]
  have hwrites : Task.step fetch none (.writing locator content) (area.take (sizeOf content)) disk =
      (.settling locator content (area.part locator),
        (area.take (sizeOf content)).beginning locator, written) := by
    have hbegin := (area.take (sizeOf content)).beginFile_place locator
    have hbegun : disk.write ((area.take (sizeOf content)).part locator) content = .ok written :=
      hwrite
    simp only [Task.step, hbegin, Task.attempt, hbegun]
    rfl
  have hsettles : Task.step fetch none (.settling locator content (area.part locator))
      ((area.take (sizeOf content)).beginning locator) written =
        (.done (.ok (area.place locator)), ((area.take (sizeOf content)).beginning
          locator).withHolding (area.place locator) ⟨sizeOf content, 1⟩, moved) := by
    have hsame : ((area.take (sizeOf content)).beginning locator).place locator =
        area.place locator := rfl
    have hfree : ((area.take (sizeOf content)).beginning locator).holding?
        (area.place locator) = none := hnone
    simp only [Task.step, Task.settle, hsame, Task.attempt, hrename, Area.hold?, hfree,
      Option.map_none]
  refine ⟨moved, ?_⟩
  rw [Area.save, Task.run_of_free rfl rfl, hlooks, Task.run_of_free rfl rfl, hfetches,
    Task.run_of_free rfl hshortage, hreserves, Task.run_of_free rfl rfl, hwrites,
    Task.run_of_free rfl rfl, hsettles, Task.run_of_result rfl]

/-- A file that is held, or fits and can be made, is saved. -/
theorem Area.save_eq_ok (hspace : (area.holding? (area.place locator)).isSome = true ∨
      area.ledger.fits (sizeOf content) = true ∧ disk.Takes (area.part locator) ∧
        disk.Takes (area.place locator)) :
    (area.save fetch locator disk).1 = .ok (area.place locator) := by
  cases hholding : area.holding? (area.place locator) with
  | some holding =>
    obtain ⟨held, hsave⟩ := save_of_held fetch rfl (Option.isSome_iff_exists.mpr ⟨_, hholding⟩) disk
    rw [hsave]
  | none =>
    rw [hholding] at hspace
    obtain ⟨hfits, hpart, hplace⟩ := hspace.resolve_left Bool.false_ne_true
    obtain ⟨left, hsave⟩ := Area.save_of_space hfetch hholding hfits hpart hplace
    rw [hsave]

end Save

/-- To let a file go that is none of a video is to remove it. -/
theorem Area.free_of_not_video {locator : String} (h : isVideo locator = false) (area : Area)
    (disk : Disk) : (area.free locator disk).2.1 = area ∧
      Removal none disk (area.place locator) (area.free locator disk).2.2 := by
  have hremoval := Task.removal_attempt none disk (area.place locator)
  -- no holding can be of such a locator, so the file is tried and nothing else
  obtain ⟨result, left, hstep, hleft⟩ : ∃ result left,
      Task.step (fun _ => .error .truncated) none (.freeing locator) area disk =
        (.done result, area, left) ∧ Removal none disk (area.place locator) left := by
    rw [Task.step, Task.free]
    simp only [h, Bool.not_false, if_true]
    cases hattempt : Task.attempt none (disk.remove (area.place locator)) with
    | ok left =>
      rw [hattempt] at hremoval
      exact ⟨_, left, rfl, hremoval⟩
    | error fault =>
      rw [hattempt] at hremoval
      exact ⟨_, disk, rfl, hremoval⟩
  rw [Area.free, Task.run_of_free rfl rfl, hstep, Task.run_of_result rfl]
  exact ⟨rfl, hleft⟩

end BoardRelay.Staging
