/-
  BoardRelay.Proofs.Staging.Holders
  ────────────────────────────────
  Who holds a staged file.  When nobody lets go of what nobody was given, a
  holding counts the calls that came to hold its path less those that let it
  go; the file is there as long as any is left, and goes with the last
  (`held_until_freed`).
-/
import BoardRelay.Proofs.Staging.Files

namespace BoardRelay.Staging

/-! ## §1. Comings and goings. -/

/-- Whether a task has ended well. -/
def Task.succeeded : Task → Bool
  | .done result => result.isOk
  | _ => false

/-- Whether a call has come to hold a file. -/
def Call.holds (call : Call) : Bool :=
  call.wish.acquires && call.task.granted

/-- Whether a call has let a file go. -/
def Call.letGo (call : Call) : Bool :=
  !call.wish.acquires && !call.task.frees

/-- How many hold the file at a path. -/
def Area.holders (path : Disk.Path) (area : Area) : Nat :=
  ((area.holding? path).map (·.holders)).getD 0

namespace Yard

/-- How many calls of some kind are about the file at a path. -/
def countAt (p : Call → Bool) (path : Disk.Path) (yard : Yard) : Nat :=
  yard.calls.countP fun call => p call && yard.area.place call.wish.locator == path

/-- How many calls have come to hold the file at a path. -/
def acquired (path : Disk.Path) (yard : Yard) : Nat :=
  yard.countAt Call.holds path

/-- How many calls have let the file at a path go. -/
def freed (path : Disk.Path) (yard : Yard) : Nat :=
  yard.countAt Call.letGo path

/-- The locators whose files were given to callers, once for each time. -/
def given (yard : Yard) : List String :=
  (yard.calls.filter fun call => call.wish.acquires && call.task.succeeded).map (·.wish.locator)

/-- The locators whose files callers let go or are about to, once for each
time. -/
def returned (yard : Yard) : List String :=
  (yard.calls.filter fun call => !call.wish.acquires).map (·.wish.locator)

/-- Whether all calls are done and all that was given was returned. -/
def Settled (yard : Yard) : Prop :=
  (∀ call ∈ yard.calls, ∃ result, call.task = .done result) ∧
    ∀ locator, yard.returned.count locator = yard.given.count locator

end Yard

/-- Whether an event disturbs nothing and is not the return of what was not
given. -/
def Event.orderly (yard : Yard) (event : Event) : Bool :=
  event.calm yard && match event with
    | .begin (.free locator) => yard.returned.count locator < yard.given.count locator
    | _ => true

/-- An orderly event is calm. -/
theorem Event.calm_of_orderly {yard : Yard} (event : Event) (h : event.orderly yard = true) :
    event.calm yard = true := by
  unfold orderly at h
  exact (Bool.and_eq_true_iff.mp h).1

/-- Whether a run is one of parties that return, once each, the files that
they were given. -/
def Yard.orderly (yard : Yard) : List Event → Bool
  | [] => true
  | event :: events => event.orderly yard && (yard.handle event).orderly events

/-! ## §2. One turn. -/

section Turn

variable {fit : Disk.Path → Text.Bytes → Prop} {wish : Wish} {offer : Option Text.Bytes}
  {struck : Option Disk.Fault} {area area' : Area} {disk disk' : Disk} {task task' : Task}

theorem Area.holders_withHolding (path : Disk.Path) (holding : Holding) (area : Area) :
    (area.withHolding path holding).holders path = holding.holders := by
  rw [holders, holding?_withHolding]
  rfl

theorem Area.holders_withoutHolding (path : Disk.Path) (area : Area) :
    (area.withoutHolding path).holders path = 0 := by
  rw [holders, holding?_withoutHolding]
  rfl

/-- A path has the holders of its holding. -/
theorem Area.holders_of_holding? {area : Area} {path : Disk.Path} {holding : Holding}
    (h : area.holding? path = some holding) : area.holders path = holding.holders := by
  rw [holders, h]
  rfl

/-- A path without a holding has none. -/
theorem Area.holders_of_none {area : Area} {path : Disk.Path} (h : area.holding? path = none) :
    area.holders path = 0 := by
  rw [holders, h]
  rfl

/-- The holders of the call's own place change by the call, if it came to
hold the file or let it go. -/
theorem Task.Moves.holders_eq (h : Task.Moves offer struck area disk task task' area' disk')
    (hsound : task.Sound fit area disk wish)
    (hheld : task.frees = true → 0 < area.holders (area.place wish.locator)) :
    area'.holders (area.place wish.locator) +
        ((!wish.acquires && !task'.frees).toNat + (wish.acquires && task.granted).toNat) =
      area.holders (area.place wish.locator) +
        ((!wish.acquires && !task.frees).toNat + (wish.acquires && task'.granted).toNat) := by
  cases h with
  | rests | missing | unfetched | fetched | refused | reserved => rfl
  | unwritten | written | unmoved | gaveBack | owesClearing | cleared => rfl
  -- three ways to come to hold a file
  | found hholding =>
    cases hsound.serves with
    | looking hacquires =>
      rw [Area.holders_withHolding, Area.holders_of_holding? hholding, hacquires]
      rfl
  | shared _ hholding =>
    cases hsound.serves with
    | settling hacquires =>
      rw [Area.holders_withHolding, Area.holders_of_holding? hholding, hacquires]
      rfl
  | settled _ hnone =>
    cases hsound.serves with
    | settling hacquires =>
      rw [Area.holders_withHolding, Area.holders_of_none hnone, hacquires]
      rfl
  -- and two to let it go, since it is held
  | discarded hunheld =>
    cases hsound.serves with
    | freeing =>
      have hpos := hheld rfl
      rw [Area.holders_of_none (hunheld hsound.video)] at hpos
      cases hpos
  | left _ hholding hothers =>
    cases hsound.serves with
    | freeing hfrees =>
      rw [Area.holders_withHolding, Area.holders_of_holding? hholding, hfrees]
      exact Nat.sub_add_cancel (Nat.le_of_lt hothers)
  | leftLast _ hholding hlast =>
    cases hsound.serves with
    | freeing hfrees =>
      have hpos := hheld rfl
      rw [Area.holders_of_holding? hholding] at hpos
      rw [Area.holders_withoutHolding, Area.holders_of_holding? hholding, hfrees]
      exact Nat.le_antisymm hpos hlast

/-- A file at the call's own place that is there and not held after a turn
was so before. -/
theorem Task.Moves.unheld_before (h : Task.Moves offer struck area disk task task' area' disk')
    (hsound : task.Sound fit area disk wish) (hcalm : task.removes = true → struck = none)
    (hnone : area'.holding? (area.place wish.locator) = none) {content : Text.Bytes}
    (hread : disk'.read (area.place wish.locator) = .ok content) :
    area.holding? (area.place wish.locator) = none ∧
      disk.read (area.place wish.locator) = .ok content := by
  have hstaged := area.isStaged_place hsound.video
  have hquiet := fun hreaches : task.reaches = false =>
    h.read_iff hsound hstaged fun _ => hreaches
  cases h with
  -- whoever holds the file after the turn would be seen
  | found =>
    cases hsound.serves with
    | looking => cases (Area.holding?_withHolding _ _ area).symm.trans hnone
  | shared =>
    cases hsound.serves with
    | settling => cases (Area.holding?_withHolding _ _ area).symm.trans hnone
  | settled =>
    cases hsound.serves with
    | settling => cases (Area.holding?_withHolding _ _ area).symm.trans hnone
  | left =>
    cases hsound.serves with
    | freeing => cases (Area.holding?_withHolding _ _ area).symm.trans hnone
  -- and whoever removes the file leaves none
  | discarded _ hleft =>
    cases hcalm rfl
    cases hsound.serves with
    | freeing => exact absurd hread (hleft.no_content hstaged.isEntry.namesFile content)
  | leftLast _ _ _ hleft =>
    cases hcalm rfl
    cases hsound.serves with
    | freeing => exact absurd hread (hleft.no_content hstaged.isEntry.namesFile content)
  | rests => exact ⟨hnone, hread⟩
  | unmoved => exact ⟨hnone, hread⟩
  | _ => exact ⟨hnone, (hquiet rfl content).mp hread⟩

theorem Task.Moves.succeeded (h : Task.Moves offer struck area disk task task' area' disk')
    (hsucceeded : task.succeeded = true) : task'.succeeded = true := by
  cases h with
  | rests => exact hsucceeded
  | _ => cases hsucceeded

theorem Task.granted_of_succeeded (h : task.succeeded = true) : task.granted = true := by
  cases task with
  | done result => exact h
  | _ => cases h

end Turn

/-! ## §3. Every run. -/

namespace Yard

/-- Whether what is held is what was acquired and not let go, and no file is
left where nobody holds one any more. -/
structure Matched (yard : Yard) : Prop where
  returned_le (locator : String) : yard.returned.count locator ≤ yard.given.count locator
  holders_eq (path : Disk.Path) : yard.area.holders path + yard.freed path = yard.acquired path
  gone {path : Disk.Path} {content : Text.Bytes} : 0 < yard.acquired path →
    yard.area.holding? path = none → yard.disk.read path ≠ .ok content

variable {fit : Disk.Path → Text.Bytes → Prop} {yard start : Yard}

/-- Before the first call nobody holds anything. -/
theorem matched_opening (root : Disk.Path) (budget : UInt64) (disk : Disk) :
    (opening root budget disk).Matched :=
  ⟨fun _ => Nat.le_refl _, fun _ => rfl, nofun⟩

theorem countP_given (p : String → Bool) (yard : Yard) : yard.given.countP p =
    yard.calls.countP fun call =>
      p call.wish.locator && (call.wish.acquires && call.task.succeeded) := by
  rw [given, List.countP_map, List.countP_filter]
  rfl

theorem countP_returned (p : String → Bool) (yard : Yard) : yard.returned.countP p =
    yard.calls.countP fun call => p call.wish.locator && !call.wish.acquires := by
  rw [returned, List.countP_map, List.countP_filter]
  rfl

/-- What was given has been acquired. -/
theorem given_le_acquired (path : Disk.Path) (yard : Yard) :
    yard.given.countP (fun locator => yard.area.place locator == path) ≤ yard.acquired path := by
  rw [countP_given, acquired, countAt]
  refine List.countP_mono_left fun call _ h => ?_
  simp only [Bool.and_eq_true] at h
  rw [Call.holds, h.2.1, Task.granted_of_succeeded h.2.2, h.1]
  rfl

/-- Only videos are acquired. -/
theorem Kept.isStaged_of_acquired (h : yard.Kept fit start) {path : Disk.Path}
    (hpos : 0 < yard.acquired path) : IsStaged yard.area.root path := by
  obtain ⟨call, hcall, hholds⟩ := List.countP_pos_iff.mp hpos
  obtain ⟨position, hposition⟩ := List.getElem?_of_mem hcall
  rw [Bool.and_eq_true, beq_iff_eq] at hholds
  exact hholds.2 ▸ yard.area.isStaged_place (h.sound hposition).video

/-- Whoever is about to let a file go finds it held: what was let go at its
path is less than what was returned, and that no more than was given. -/
theorem Matched.holders_pos (h : yard.Matched) {call : Call} (hcall : call ∈ yard.calls)
    (hfrees : call.task.frees = true) (hwish : call.wish.acquires = false) :
    0 < yard.area.holders (yard.area.place call.wish.locator) := by
  -- the call is among those that return the file, not yet among those that let it go
  have hfreed : yard.freed (yard.area.place call.wish.locator) < yard.returned.countP
      fun locator => yard.area.place locator == yard.area.place call.wish.locator := by
    rw [countP_returned, freed, countAt]
    refine countP_lt_countP (fun other _ hother => ?_) hcall ?_ ?_
    · simp only [Call.letGo, Bool.and_eq_true] at hother ⊢
      exact ⟨hother.2, hother.1.1⟩
    · rw [Call.letGo, hfrees, Bool.not_true, Bool.and_false, Bool.false_and]
    · simp only [hwish, beq_self_eq_true, Bool.not_false, Bool.and_self]
  -- several locators may have one place, so counts by locator are not enough
  have hgiven : yard.returned.Subperm yard.given :=
    List.subperm_ext_iff.mpr fun locator _ => h.returned_le locator
  have hcount := hgiven.countP_le
    fun locator => yard.area.place locator == yard.area.place call.wish.locator
  have hacquired := given_le_acquired (yard.area.place call.wish.locator) yard
  have hholders := h.holders_eq (yard.area.place call.wish.locator)
  omega

theorem countAt_began {p : Call → Bool} {wish : Wish} (h : p (.ofWish wish) = false)
    (path : Disk.Path) : countAt p path { yard with calls := yard.calls ++ [.ofWish wish] } =
      yard.countAt p path := by
  rw [countAt, List.countP_append, List.countP_singleton, h]
  rfl

/-- A call that has just begun has come to hold nothing and let nothing go. -/
theorem Matched.began (h : yard.Matched) {wish : Wish}
    (horderly : (Event.begin wish).orderly yard = true) :
    ({ yard with calls := yard.calls ++ [.ofWish wish] } : Yard).Matched := by
  have hholds : (Call.ofWish wish).holds = false := by cases wish <;> rfl
  have hletGo : (Call.ofWish wish).letGo = false := by cases wish <;> rfl
  -- a call that begins has nothing yet, so only what is returned can grow
  have hgiven : ({ yard with calls := yard.calls ++ [.ofWish wish] } : Yard).given =
      yard.given := by
    have hsucceeded : wish.task.succeeded = false := by cases wish <;> rfl
    simp [given, List.filter_append, Call.ofWish, hsucceeded]
  refine ⟨fun locator => ?_, fun path => ?_, fun {path content} hpos => ?_⟩
  · have hle := h.returned_le locator
    rw [hgiven, returned, List.filter_append, List.map_append, List.count_append]
    cases wish with
    | save other => exact hle
    | stage other content => exact hle
    | free other =>
      -- an orderly free is of a locator still out
      rw [Event.orderly, Bool.and_eq_true, decide_eq_true_eq] at horderly
      show yard.returned.count locator + [other].count locator ≤ _
      by_cases heq : locator = other
      · subst heq
        rw [List.count_singleton_self]
        exact horderly.2
      · have hnone : [other].count locator = 0 :=
          List.count_eq_zero_of_not_mem fun hmem => heq (List.mem_singleton.mp hmem)
        rw [hnone]
        exact hle
  · rw [acquired, freed, countAt_began hholds, countAt_began hletGo]
    exact h.holders_eq path
  · rw [acquired, countAt_began hholds] at hpos
    exact h.gone hpos

section Turn

variable {offer : Option Text.Bytes} {struck : Option Disk.Fault} {position : Nat} {call : Call}
  {task : Task} {area : Area} {disk : Disk}

/-- What is counted at a path changes by the call whose turn it was. -/
theorem countAt_turned (hcall : yard.calls[position]? = some call)
    (hmoves : Task.Moves offer struck yard.area yard.disk call.task task area disk)
    (p : Call → Bool) (path : Disk.Path) (taken : Int) (marked : Bool) :
    countAt p path ⟨area, disk, yard.calls.set position ⟨call.wish, task, taken, marked⟩⟩ +
        (p call && yard.area.place call.wish.locator == path).toNat =
      yard.countAt p path + (p ⟨call.wish, task, taken, marked⟩ &&
        yard.area.place call.wish.locator == path).toNat := by
  simp only [countAt, hmoves.place_eq]
  exact countP_set (fun other => p other && yard.area.place other.wish.locator == path) hcall
    ⟨call.wish, task, taken, marked⟩

/-- The call that lets a file go finds it held. -/
theorem Matched.holders_pos_of_frees (h : yard.Matched) (hkept : yard.Kept fit start)
    (hcall : yard.calls[position]? = some call) (hfrees : call.task.frees = true) :
    0 < yard.area.holders (yard.area.place call.wish.locator) := by
  refine h.holders_pos (List.mem_of_getElem? hcall) hfrees ?_
  have hserves := (hkept.sound hcall).serves
  generalize call.task = before at hserves hfrees
  cases hserves with
  | freeing hwish => exact hwish
  | _ => cases hfrees

/-- A turn changes the holders of a path by what the call has acquired or let
go. -/
theorem Matched.holders_turned (h : yard.Matched) (hkept : yard.Kept fit start)
    (hcall : yard.calls[position]? = some call)
    (hmoves : Task.Moves offer struck yard.area yard.disk call.task task area disk) (taken : Int)
    (marked : Bool) (path : Disk.Path) :
    area.holders path + freed path
        ⟨area, disk, yard.calls.set position ⟨call.wish, task, taken, marked⟩⟩ =
      acquired path ⟨area, disk, yard.calls.set position ⟨call.wish, task, taken, marked⟩⟩ := by
  have hsound := hkept.sound hcall
  have hacquired := countAt_turned hcall hmoves Call.holds path taken marked
  have hfreed := countAt_turned hcall hmoves Call.letGo path taken marked
  have hbefore := h.holders_eq path
  unfold acquired freed at hbefore ⊢
  by_cases hplace : yard.area.place call.wish.locator = path
  · -- at the call's own place, by what the call has done
    subst hplace
    have hown := hmoves.holders_eq hsound (h.holders_pos_of_frees hkept hcall)
    rw [beq_self_eq_true, Bool.and_true, Bool.and_true] at hacquired hfreed
    dsimp only [Call.holds, Call.letGo] at hacquired hfreed
    omega
  · rw [beq_false_of_ne hplace] at hacquired hfreed
    simp only [Bool.and_false, Bool.toNat_false, Nat.add_zero] at hacquired hfreed
    rw [Area.holders, hmoves.holding?_of_ne hsound.serves (Ne.symm hplace), hfreed, hacquired]
    exact hbefore

/-- What was given stays given, and only a new call returns anything. -/
theorem Matched.returned_turned (h : yard.Matched) (hcall : yard.calls[position]? = some call)
    (hmoves : Task.Moves offer struck yard.area yard.disk call.task task area disk) (taken : Int)
    (marked : Bool) (locator : String) :
    (returned ⟨area, disk, yard.calls.set position ⟨call.wish, task, taken, marked⟩⟩).count
        locator ≤
      (given ⟨area, disk, yard.calls.set position ⟨call.wish, task, taken, marked⟩⟩).count
        locator := by
  have hle := h.returned_le locator
  -- a success is not taken back by a later step
  have hsucceeded : (call.wish.locator == locator &&
        (call.wish.acquires && call.task.succeeded)).toNat ≤
      (call.wish.locator == locator && (call.wish.acquires && task.succeeded)).toNat := by
    cases hbefore : call.task.succeeded with
    | false => simp
    | true => rw [hmoves.succeeded hbefore]
  -- both counts change at this one call alone
  have hreturned := countP_set
    (fun other : Call => other.wish.locator == locator && !other.wish.acquires) hcall
    ⟨call.wish, task, taken, marked⟩
  have hgiven := countP_set (fun other : Call =>
    other.wish.locator == locator && (other.wish.acquires && other.task.succeeded)) hcall
    ⟨call.wish, task, taken, marked⟩
  simp only [List.count, countP_given, countP_returned] at hle hreturned hgiven ⊢
  omega

/-- A path that nobody holds after a turn was not acquired by it: whoever came
to hold the file just now would be a holder still. -/
theorem Matched.acquired_before (h : yard.Matched) (hkept : yard.Kept fit start)
    (hcall : yard.calls[position]? = some call)
    (hmoves : Task.Moves offer struck yard.area yard.disk call.task task area disk) (taken : Int)
    (marked : Bool) {path : Disk.Path} (hnone : area.holding? path = none)
    (hpos : 0 < acquired path
      ⟨area, disk, yard.calls.set position ⟨call.wish, task, taken, marked⟩⟩) :
    0 < yard.acquired path := by
  have hacquired := countAt_turned hcall hmoves Call.holds path taken marked
  have hfreed := countAt_turned hcall hmoves Call.letGo path taken marked
  have hbefore := h.holders_eq path
  have hafter := h.holders_turned hkept hcall hmoves taken marked path
  -- no call both holds a file and lets one go
  have hone : ((Call.mk call.wish task taken marked).holds &&
        yard.area.place call.wish.locator == path).toNat +
      ((Call.mk call.wish task taken marked).letGo &&
        yard.area.place call.wish.locator == path).toNat ≤ 1 := by
    cases hwish : call.wish.acquires with
    | false => simp [Call.holds, hwish, Bool.toNat_le]
    | true => simp [Call.letGo, hwish, Bool.toNat_le]
  rw [Area.holders_of_none hnone] at hafter
  unfold acquired freed at hbefore hafter
  unfold acquired at hpos ⊢
  omega

/-- **A turn of any call keeps the holders matched**, and no file behind that
nobody holds. -/
theorem Matched.turned (h : yard.Matched) (hkept : yard.Kept fit start)
    (hcall : yard.calls[position]? = some call)
    (hmoves : Task.Moves offer struck yard.area yard.disk call.task task area disk)
    (hcalm : call.task.removes = true → struck = none) (taken : Int) (marked : Bool) :
    Matched ⟨area, disk, yard.calls.set position ⟨call.wish, task, taken, marked⟩⟩ := by
  refine ⟨h.returned_turned hcall hmoves taken marked,
    h.holders_turned hkept hcall hmoves taken marked, fun {path content} hpos hnone hread => ?_⟩
  have hsound := hkept.sound hcall
  have hpos' := h.acquired_before hkept hcall hmoves taken marked hnone hpos
  by_cases hplace : path = yard.area.place call.wish.locator
  · subst hplace
    obtain ⟨hunheld, hthere⟩ := hmoves.unheld_before hsound hcalm hnone hread
    exact h.gone hpos' hunheld hthere
  · -- at any other place the turn has changed neither the file nor who holds it
    have hstaged := hkept.isStaged_of_acquired hpos'
    have hsame := hmoves.read_iff hsound hstaged fun heq => absurd heq hplace
    rw [hmoves.holding?_of_ne hsound.serves hplace] at hnone
    exact h.gone hpos' hnone ((hsame content).mp hread)

end Turn

/-- So does every orderly event. -/
theorem Matched.handle (h : yard.Matched) (hkept : yard.Kept fit start) {event : Event}
    (horderly : event.orderly yard = true) : (yard.handle event).Matched := by
  have hcalm := event.calm_of_orderly horderly
  have hmoves := yard.moves_handle event
  generalize yard.handle event = next at hmoves
  cases hmoves with
  | idle => exact h
  | began wish => exact h.began horderly
  | disturbed disk => cases hcalm
  | turned hposition hcall hmoves =>
    exact h.turned hkept hcall hmoves (event.struck_of_calm hcalm hposition hcall) _ _

theorem calm_of_orderly {events : List Event} (h : yard.orderly events = true) :
    yard.Calm (fun _ _ => True) events := by
  induction events generalizing yard with
  | nil => exact trivial
  | cons event events ih =>
    rw [orderly, Bool.and_eq_true] at h
    exact ⟨event.calm_of_orderly h.1, event.brings_true yard, ih h.2⟩

/-- Every orderly run keeps the holders matched. -/
theorem Matched.after (h : yard.Matched) (hkept : yard.Kept (fun _ _ => True) start)
    {events : List Event} (horderly : yard.orderly events = true) :
    (yard.after events).Matched := by
  induction events generalizing yard with
  | nil => exact h
  | cons event events ih =>
    have hcalm := calm_of_orderly horderly
    rw [orderly, Bool.and_eq_true] at horderly
    exact ih (h.handle hkept horderly.1) (hkept.handle hcalm.1 hcalm.2.1) horderly.2

/-! ## §4. The end of a run. -/

/-- When all is settled, whatever was acquired has been let go. -/
theorem Settled.holders_eq (h : yard.Settled) (hmatched : yard.Matched) (path : Disk.Path) :
    yard.area.holders path = 0 := by
  -- with every call done, holders taken are answers given and holders let go are frees begun
  have hacquired : yard.acquired path =
      yard.given.countP fun locator => yard.area.place locator == path := by
    rw [countP_given, acquired, countAt]
    refine List.countP_congr fun call hcall => ?_
    obtain ⟨result, hdone⟩ := h.1 call hcall
    rw [Call.holds, hdone, Task.granted, Task.succeeded, Bool.and_comm]
  have hfreed : yard.freed path =
      yard.returned.countP fun locator => yard.area.place locator == path := by
    rw [countP_returned, freed, countAt]
    refine List.countP_congr fun call hcall => ?_
    obtain ⟨result, hdone⟩ := h.1 call hcall
    have hfrees : call.task.frees = false := by rw [hdone]; rfl
    rw [Call.letGo, hfrees, Bool.not_false, Bool.and_true, Bool.and_comm]
  have hperm : yard.returned.Perm yard.given := List.perm_iff_count.mpr h.2
  have hcount := hperm.countP_eq fun locator => yard.area.place locator == path
  have hholders := hmatched.holders_eq path
  omega

/-- When all that was acquired has been let go, nothing is held. -/
theorem Settled.holdings_eq (h : yard.Settled) (hmatched : yard.Matched)
    (hkept : yard.Kept fit start) : yard.area.holdings = [] := by
  -- a holding has a holder, and all holders have let go
  cases hholdings : yard.area.holdings with
  | nil => rfl
  | cons entry entries =>
    have hholding : yard.area.holding? entry.1 = some entry.2 := by
      rw [Area.holding?, hholdings, List.lookup_cons_self]
    have hpos := (hkept.held hholding).holders
    rw [← Area.holders_of_holding? hholding, h.holders_eq hmatched] at hpos
    cases hpos

/-- Then nothing is taken either. -/
theorem Settled.loaded_eq (h : yard.Settled) {budget : UInt64} (haccounted : yard.Accounted budget)
    (hholdings : yard.area.holdings = []) : yard.area.ledger.loaded = 0 := by
  -- calls that are done owe nothing
  have howed : yard.owed = 0 := by
    refine List.sum_eq_zero fun owes howes => ?_
    obtain ⟨call, hcall, rfl⟩ := List.mem_map.mp howes
    obtain ⟨result, hdone⟩ := h.1 call hcall
    rw [hdone]
    rfl
  have hloaded := haccounted.loaded_eq
  rw [howed, Area.counted, hholdings] at hloaded
  exact UInt64.toNat_inj.mp hloaded

end Yard

/-- In every run of calls on videos whose files are returned once each, in
any order of steps and whatever fails but the deletion of files: who holds a
path and who let it go are together those who acquired it; as long as any of
them holds it the file is there; and once all is settled nothing is held,
nothing is taken from the budget, no file is at a path that was acquired, and
every other file was there before. -/
theorem held_until_freed (root : Disk.Path) (budget : UInt64) (disk : Disk) (events : List Event)
    (h : (Yard.opening root budget disk).orderly events = true) :
    let yard := (Yard.opening root budget disk).after events
    (∀ path, yard.area.holders path + yard.freed path = yard.acquired path) ∧
      (∀ path, yard.freed path < yard.acquired path →
        ∃ content, yard.disk.read path = .ok content) ∧
      (yard.Settled → yard.area.holdings = [] ∧ yard.area.ledger.loaded = 0 ∧
        (∀ path, 0 < yard.acquired path → ∀ content, yard.disk.read path ≠ .ok content) ∧
        ∀ place content, yard.disk.node? place = some (.file content) →
          disk.node? place = some (.file content)) := by
  intro yard
  have hkept : yard.Kept (fun _ _ => True) (Yard.opening root budget disk) :=
    (Yard.kept_opening _ root budget disk).after (Yard.calm_of_orderly h)
  have hmatched : yard.Matched :=
    (Yard.matched_opening root budget disk).after (Yard.kept_opening _ root budget disk) h
  have haccounted : yard.Accounted budget := (Yard.accounted_opening root budget disk).after events
  refine ⟨hmatched.holders_eq, fun path hpath => ?_, fun hsettled => ?_⟩
  · -- a path acquired more often than freed has a holding, and a holding has its file
    have hholders := hmatched.holders_eq path
    cases hholding : yard.area.holding? path with
    | none =>
      rw [Area.holders_of_none hholding] at hholders
      omega
    | some holding =>
      obtain ⟨content, -, hread⟩ := (hkept.held hholding).there
      exact ⟨content, hread⟩
  · have hholdings := hsettled.holdings_eq hmatched hkept
    -- with no holding left every file is one from before the first call, or one still being
    -- written
    have hnone : ∀ path, yard.area.holding? path = none := by
      intro path
      rw [Area.holding?, hholdings]
      rfl
    refine ⟨hholdings, hsettled.loaded_eq haccounted hholdings, fun path hpos content =>
      hmatched.gone hpos (hnone path), fun place content hfile => ?_⟩
    rcases hkept.files hfile with hbefore | ⟨path, -, hheld | ⟨call, hcall, hpart⟩⟩
    · exact hbefore
    · rw [hnone] at hheld
      cases hheld
    · obtain ⟨result, hdone⟩ := hsettled.1 call hcall
      rw [hdone] at hpart
      cases hpart

/-- The directory of an area. -/
def areaRoot : Disk.Path :=
  ⟨true, [.into "area"], .plain⟩

/-- A disk with that directory and no file. -/
def areaDisk : Disk :=
  ⟨[(["area"], .directory)], []⟩

/-- Two parties stage the same video at once: the second looks for it before
the first has moved it to its place, and fetches it too. -/
def sharing : List Event :=
  let locator := "https://h.org/b/a.webm"
  let work (position : Nat) : Event := .work position (.ok [1, 2]) none
  [.begin (.stage locator [1, 2]), .begin (.save locator), work 1, work 1, work 1, work 1, work 0,
    work 0, work 0, work 1, work 1, .begin (.free locator), work 2, .begin (.free locator), work 3,
    work 3]

/-- In the run of two who share a file, everything is let go in the end. -/
theorem settled_sharing : ((Yard.opening areaRoot 100 areaDisk).after sharing).Settled := by
  have hdone : ((Yard.opening areaRoot 100 areaDisk).after sharing).calls.all
      (fun call => call.task.result?.isSome) = true := by
    decide +kernel
  have hlocators : ((Yard.opening areaRoot 100 areaDisk).after sharing).returned =
      ((Yard.opening areaRoot 100 areaDisk).after sharing).given := by
    decide +kernel
  refine ⟨fun call hcall => ?_, fun locator => by rw [hlocators]⟩
  have hresult := List.all_eq_true.mp hdone call hcall
  cases htask : call.task with
  | done result => exact ⟨result, rfl⟩
  | _ =>
    rw [htask] at hresult
    cases hresult

/-- The video is there until the second of them lets it go. -/
theorem sharing_held_until_freed :
    (Yard.opening areaRoot 100 areaDisk).orderly sharing = true ∧
      (∃ content, ((Yard.opening areaRoot 100 areaDisk).after (sharing.take 13)).disk.read
        ((Area.empty areaRoot 100).place "https://h.org/b/a.webm") = .ok content) ∧
      ((Yard.opening areaRoot 100 areaDisk).after sharing).Settled ∧
      ((Yard.opening areaRoot 100 areaDisk).after sharing).area.holdings = [] := by
  have hfirst : (Yard.opening areaRoot 100 areaDisk).orderly (sharing.take 13) = true := by
    decide +kernel
  have horderly : (Yard.opening areaRoot 100 areaDisk).orderly sharing = true := by decide +kernel
  obtain ⟨-, hthere, -⟩ := held_until_freed areaRoot 100 areaDisk (sharing.take 13) hfirst
  obtain ⟨-, -, hend⟩ := held_until_freed areaRoot 100 areaDisk sharing horderly
  exact ⟨horderly, hthere _ (by decide +kernel), settled_sharing, (hend settled_sharing).1⟩

end BoardRelay.Staging
