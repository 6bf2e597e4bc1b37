/-
  BoardRelay.Proofs.Staging.Content
  ────────────────────────────────
  What is in a staged file.  A file is found again by its path alone, and
  locators that differ in slashes or in their first dot may share one.  In a
  run in which every locator is served with one content, a held file has the
  content of some locator with its name, whatever fails; so as long as the
  locators of one name are served alike, everybody finds what they asked for
  (`held_as_served`).  Where they are not, whoever comes second is given the
  file of the first (`save_of_held`, `second_is_given_the_first`).
-/
import BoardRelay.Proofs.Staging.Holders

namespace BoardRelay.Staging

/-! ## §1. Runs of saves and frees. -/

/-- The locator whose content a task is about to fetch. -/
def Task.fetches? : Task → Option String
  | .fetching locator => some locator
  | _ => none

/-- The path that a task comes to, once this is known. -/
def Task.answer? : Task → Option Disk.Path
  | .givingBack _ _ result => result.toOption
  | .clearing _ result => result.toOption
  | .done result => result.toOption
  | _ => none

/-- Whether an event is one of saves and frees of videos, each of which is
served with its own content if it is served at all. -/
def Event.serves (served : String → Text.Bytes) (yard : Yard) : Event → Bool
  | .begin (.stage _ _) => false
  | .begin wish => isVideo wish.locator
  | .work position (.ok content) _ =>
    (yard.calls[position]?.bind (·.task.fetches?)).all fun locator => content == served locator
  | .meanwhile _ => false
  | _ => true

/-- Whether all events of a run are. -/
def Yard.serves (served : String → Text.Bytes) (yard : Yard) : List Event → Bool
  | [] => true
  | event :: events => event.serves served yard && (yard.handle event).serves served events

/-- Whether a content is served for one of the saved locators of a path. -/
def Area.Fits (served : String → Text.Bytes) (saved : String → Prop) (area : Area)
    (path : Disk.Path) (content : Text.Bytes) : Prop :=
  ∃ locator, isVideo locator = true ∧ saved locator ∧ area.place locator = path ∧
    served locator = content

namespace Event

variable {served : String → Text.Bytes} {yard : Yard}

theorem video_of_serves {wish : Wish} (h : (Event.begin wish).serves served yard = true) :
    isVideo wish.locator = true := by
  cases wish with
  | save locator => exact h
  | stage locator content => cases h
  | free locator => exact h

/-- A fetch that serves brings what is served for its locator. -/
theorem served_of_serves {position : Nat} {content : Text.Bytes} {struck : Option Disk.Fault}
    (h : (Event.work position (.ok content) struck).serves served yard = true) {call : Call}
    (hcall : yard.calls[position]? = some call) {locator : String}
    (hfetching : call.task = .fetching locator) : served locator = content := by
  rw [serves, hcall, Option.bind_some, hfetching] at h
  exact (eq_of_beq h).symm

end Event

/-! ## §2. What every run keeps. -/

section Turn

variable {fit : Disk.Path → Text.Bytes → Prop} {wish : Wish} {offer : Option Text.Bytes}
  {struck : Option Disk.Fault} {area area' : Area} {disk disk' : Disk} {task task' : Task}

/-- A call to hold a file comes to no path but its own. -/
theorem Task.Moves.answer?_eq (h : Task.Moves offer struck area disk task task' area' disk')
    (hserves : task.Serves fit (area.place wish.locator) wish) (hacquires : wish.acquires = true)
    {path : Disk.Path} (hanswer : task'.answer? = some path) :
    task.answer? = some path ∨ path = area.place wish.locator := by
  cases h with
  | found =>
    cases hserves with
    | looking => exact .inr (Option.some.inj hanswer).symm
  | shared =>
    cases hserves with
    | settling => exact .inr (Option.some.inj hanswer).symm
  | settled =>
    cases hserves with
    | settling => exact .inr (Option.some.inj hanswer).symm
  -- a call that lets a file go is none to hold one
  | discarded =>
    cases hserves with
    | freeing hfrees => cases hacquires.symm.trans hfrees
  | left =>
    cases hserves with
    | freeing hfrees => cases hacquires.symm.trans hfrees
  | leftLast =>
    cases hserves with
    | freeing hfrees => cases hacquires.symm.trans hfrees
  | rests => exact .inl hanswer
  | gaveBack => exact .inl hanswer
  | owesClearing => exact .inl hanswer
  | cleared => exact .inl hanswer
  | _ => cases hanswer

/-- Whoever lets a file go takes at most one holder from it, also when it was
given nothing. -/
theorem Task.Moves.holders_le (h : Task.Moves offer struck area disk task task' area' disk')
    (hsound : task.Sound fit area disk wish) :
    area.holders (area.place wish.locator) +
        ((!wish.acquires && !task.frees).toNat + (wish.acquires && task'.granted).toNat) ≤
      area'.holders (area.place wish.locator) +
        ((!wish.acquires && !task'.frees).toNat + (wish.acquires && task.granted).toNat) := by
  -- A free without a holder to let go is the only step on which the two sides may differ.
  by_cases hheld : task.frees = true → 0 < area.holders (area.place wish.locator)
  · exact (h.holders_eq hsound hheld).ge
  · obtain ⟨hfrees, hnone⟩ := Classical.not_imp.mp hheld
    have hwish : wish.acquires = false := by
      have hserves := hsound.serves
      cases hserves with
      | freeing hwish => exact hwish
      | _ => cases hfrees
    rw [Nat.eq_zero_of_not_pos hnone, hfrees, hwish]
    exact Nat.zero_le _

end Turn

namespace Yard

/-- Whether held files have the content of a saved locator of their path, and
no more calls have come to hold a path than hold it or have let it go. -/
structure Serving (served : String → Text.Bytes) (saved : String → Prop) (yard start : Yard) :
    Prop where
  filled : yard.Filled (start.area.Fits served saved) start
  asked {call : Call} : call ∈ yard.calls → call.wish.acquires = true → saved call.wish.locator
  answered {call : Call} {path : Disk.Path} : call ∈ yard.calls → call.wish.acquires = true →
    call.task.answer? = some path → path = start.area.place call.wish.locator
  acquired_le (path : Disk.Path) : yard.acquired path ≤ yard.area.holders path + yard.freed path

variable {served : String → Text.Bytes} {saved : String → Prop} {yard start : Yard}

/-- Before the first call, everything that is there is what it should be. -/
theorem serving_opening (served : String → Text.Bytes) (saved : String → Prop) (root : Disk.Path)
    (budget : UInt64) (disk : Disk) :
    (opening root budget disk).Serving served saved (opening root budget disk) :=
  ⟨(kept_opening _ root budget disk).filled, nofun, nofun, fun _ => Nat.le_refl _⟩

/-- A locator has the same place all the time. -/
theorem Filled.place_eq {fit : Disk.Path → Text.Bytes → Prop} (h : yard.Filled fit start)
    (locator : String) : yard.area.place locator = start.area.place locator :=
  Area.place_of_root h.root_eq locator

/-- What a serving event brings fits the place it is brought to. -/
theorem Serving.brings (h : yard.Serving served saved start) {event : Event}
    (hserves : event.serves served yard = true) :
    event.Brings (start.area.Fits served saved) yard := by
  cases event with
  | begin wish =>
    cases wish with
    | save locator => exact trivial
    | stage locator content => cases hserves
    | free locator => exact trivial
  | work position fetched struck =>
    cases fetched with
    | error e => exact trivial
    | ok content =>
      -- a fetch is on its way for a locator that was asked for
      intro call hcall locator hfetching
      have hcontent := Event.served_of_serves hserves hcall hfetching
      have hsound := h.filled.sound hcall
      have hwish := hsound.serves
      rw [hfetching] at hwish
      cases hwish with
      | fetching hacquires =>
        exact ⟨_, hsound.video, h.asked (List.mem_of_getElem? hcall) hacquires,
          (h.filled.place_eq _).symm, hcontent⟩
  | _ => exact trivial

/-- A call that begins for a served video keeps all this. -/
theorem Serving.began (h : yard.Serving served saved start) {wish : Wish}
    (hserves : (Event.begin wish).serves served yard = true)
    (hsaved : wish.acquires = true → saved wish.locator) :
    ({ yard with calls := yard.calls ++ [.ofWish wish] } : Yard).Serving served saved start := by
  -- a call that begins holds nothing, has let go of nothing and has no answer
  have hholds : (Call.ofWish wish).holds = false := by cases wish <;> rfl
  have hletGo : (Call.ofWish wish).letGo = false := by cases wish <;> rfl
  have hanswer : wish.task.answer? = none := by cases wish <;> rfl
  refine ⟨h.filled.began (Event.video_of_serves hserves) (h.brings hserves),
    fun hcall hacquires => ?_, fun hcall hacquires hpath => ?_, fun path => ?_⟩
  · rcases List.mem_append.mp hcall with hcall | hnew
    · exact h.asked hcall hacquires
    · cases List.mem_singleton.mp hnew
      exact hsaved hacquires
  · rcases List.mem_append.mp hcall with hcall | hnew
    · exact h.answered hcall hacquires hpath
    · cases List.mem_singleton.mp hnew
      cases hanswer.symm.trans hpath
  · rw [acquired, freed, countAt_began hholds, countAt_began hletGo]
    exact h.acquired_le path

section Turn

variable {offer : Option Text.Bytes} {struck : Option Disk.Fault} {position : Nat} {call : Call}
  {task : Task} {area : Area} {disk : Disk}

/-- At every path there are no fewer holders than calls that were given it and
have not let it go. -/
theorem Serving.acquired_turned (h : yard.Serving served saved start)
    (hcall : yard.calls[position]? = some call)
    (hmoves : Task.Moves offer struck yard.area yard.disk call.task task area disk) (taken : Int)
    (marked : Bool) (path : Disk.Path) :
    acquired path ⟨area, disk, yard.calls.set position ⟨call.wish, task, taken, marked⟩⟩ ≤
      area.holders path +
        freed path ⟨area, disk, yard.calls.set position ⟨call.wish, task, taken, marked⟩⟩ := by
  have hsound := h.filled.sound hcall
  have hacquired := countAt_turned hcall hmoves Call.holds path taken marked
  have hfreed := countAt_turned hcall hmoves Call.letGo path taken marked
  have hbefore := h.acquired_le path
  unfold acquired freed at hbefore ⊢
  -- at the call's own place, by what the call has done; elsewhere nothing has changed
  by_cases hplace : yard.area.place call.wish.locator = path
  · subst hplace
    have hown := hmoves.holders_le hsound
    rw [beq_self_eq_true, Bool.and_true, Bool.and_true] at hacquired hfreed
    dsimp only [Call.holds, Call.letGo] at hacquired hfreed
    omega
  · rw [beq_false_of_ne hplace] at hacquired hfreed
    simp only [Bool.and_false, Bool.toNat_false, Nat.add_zero] at hacquired hfreed
    rw [Area.holders, hmoves.holding?_of_ne hsound.serves (Ne.symm hplace), hfreed, hacquired]
    exact hbefore

/-- **A turn of any call keeps all this.** -/
theorem Serving.turned (h : yard.Serving served saved start)
    (hcall : yard.calls[position]? = some call)
    (hmoves : Task.Moves offer struck yard.area yard.disk call.task task area disk)
    (hoffer : ∀ content, offer = some content → call.task = .fetching call.wish.locator →
      start.area.Fits served saved (yard.area.place call.wish.locator) content) (taken : Int)
    (marked : Bool) :
    Serving served saved ⟨area, disk, yard.calls.set position ⟨call.wish, task, taken, marked⟩⟩
      start := by
  -- the calls other than this one are as they were; this one is asked before the step and after it
  have hmem := List.mem_of_getElem? hcall
  refine ⟨h.filled.turned hcall hmoves hoffer taken marked, fun hother hacquires => ?_,
    fun hother hacquires hpath => ?_, h.acquired_turned hcall hmoves taken marked⟩
  · rcases List.mem_or_eq_of_mem_set hother with hother | rfl
    · exact h.asked hother hacquires
    · have hasked : saved call.wish.locator := h.asked hmem hacquires
      exact hasked
  · rcases List.mem_or_eq_of_mem_set hother with hother | rfl
    · exact h.answered hother hacquires hpath
    · rcases hmoves.answer?_eq (h.filled.sound hcall).serves hacquires hpath with hbefore | hplace
      · have hanswered : _ = start.area.place call.wish.locator := h.answered hmem hacquires hbefore
        exact hanswered
      · exact hplace.trans (h.filled.place_eq _)

end Turn

theorem Serving.handle (h : yard.Serving served saved start) {event : Event}
    (hserves : event.serves served yard = true)
    (hsaved : ∀ locator, event = .begin (.save locator) → saved locator) :
    (yard.handle event).Serving served saved start := by
  have hmoves := yard.moves_handle event
  have hbrings := h.brings hserves
  generalize yard.handle event = next at hmoves
  -- a disturbed disk and bytes staged by hand are no events of a run that only serves
  cases hmoves with
  | idle => exact h
  | began wish =>
    refine h.began hserves fun hacquires => ?_
    cases wish with
    | save locator => exact hsaved locator rfl
    | stage locator content => cases hserves
    | free locator => cases hacquires
  | disturbed disk => cases hserves
  | turned hposition hcall hmoves =>
    exact h.turned hcall hmoves (fun content hfetched hfetching =>
      event.fit_of_brings hbrings hposition hcall hfetched hfetching) _ _

/-- So does every run in which the same content is served for every locator of
one path. -/
theorem Serving.after (h : yard.Serving served saved start) {events : List Event}
    (hserves : yard.serves served events = true)
    (hsaved : ∀ locator, Event.begin (.save locator) ∈ events → saved locator) :
    (yard.after events).Serving served saved start := by
  induction events generalizing yard with
  | nil => exact h
  | cons event events ih =>
    rw [serves, Bool.and_eq_true] at hserves
    refine ih (h.handle hserves.1 fun locator hevent => hsaved locator ?_) hserves.2
      fun locator hlater => hsaved locator (List.mem_cons_of_mem _ hlater)
    rw [hevent]
    exact List.mem_cons_self

/-! ## §3. What holders find. -/

/-- A path that more calls have come to hold than have let go has what is
served for a saved locator of it. -/
theorem Serving.read_eq (h : yard.Serving served saved start) {path : Disk.Path}
    (hheld : yard.freed path < yard.acquired path) :
    ∃ content, start.area.Fits served saved path content ∧ yard.disk.read path = .ok content := by
  have hle := h.acquired_le path
  cases hholding : yard.area.holding? path with
  | none =>
    rw [Area.holders_of_none hholding] at hle
    omega
  | some holding => exact (h.filled.held hholding).there

/-- If nothing is returned more often than it was given, and one locator less
often, its path is held. -/
theorem freed_lt_acquired {locator : String}
    (hreturned : ∀ other, yard.returned.count other ≤ yard.given.count other)
    (hkept : yard.returned.count locator < yard.given.count locator) :
    yard.freed (yard.area.place locator) < yard.acquired (yard.area.place locator) := by
  have hfreed : yard.freed (yard.area.place locator) ≤
      yard.returned.countP fun other => yard.area.place other == yard.area.place locator := by
    rw [countP_returned, freed, countAt]
    refine List.countP_mono_left fun call _ h => ?_
    simp only [Call.letGo, Bool.and_eq_true] at h ⊢
    exact ⟨h.2, h.1.1⟩
  -- one more return of the locator would still be of what was given
  have hsubperm : (locator :: yard.returned).Subperm yard.given := by
    refine List.subperm_ext_iff.mpr fun other _ => ?_
    rw [List.count_cons]
    split
    · rename_i heq
      rw [← eq_of_beq heq]
      exact hkept
    · exact hreturned other
  have hcount := hsubperm.countP_le
    fun other => yard.area.place other == yard.area.place locator
  rw [List.countP_cons, if_pos (beq_self_eq_true _)] at hcount
  have hacquired := given_le_acquired (yard.area.place locator) yard
  omega

end Yard

/-- In every run of saves and frees of videos, in any order of steps and
whatever fails: if all locators of one name that are saved are served with one
content, whoever saved one of them is given its path, and as long as fewer
have let the path go than came to hold it the file there has that content.
This is so while somebody who was given the file has not returned it, if
nobody returns what they were not given. -/
theorem held_as_served (root : Disk.Path) (budget : UInt64) (disk : Disk)
    (served : String → Text.Bytes) (events : List Event)
    (hserves : (Yard.opening root budget disk).serves served events = true) (locator : String)
    (halike : ∀ other, Event.begin (.save other) ∈ events →
      stagedName other = stagedName locator → served other = served locator) :
    let yard := (Yard.opening root budget disk).after events
    ∀ call ∈ yard.calls, ∀ path, call.wish = .save locator → call.task = .done (.ok path) →
      path = (Area.empty root budget).place locator ∧
      (yard.freed path < yard.acquired path → yard.disk.read path = .ok (served locator)) ∧
      ((∀ other, yard.returned.count other ≤ yard.given.count other) →
        yard.returned.count locator < yard.given.count locator →
        yard.freed path < yard.acquired path) := by
  intro yard call hcall path hwish hdone
  have hserving : yard.Serving served (fun other => Event.begin (.save other) ∈ events)
      (Yard.opening root budget disk) :=
    (Yard.serving_opening served _ root budget disk).after hserves fun _ hother => hother
  have hacquires : call.wish.acquires = true := by rw [hwish]; rfl
  have hpath : path = (Area.empty root budget).place locator := by
    have hanswer := hserving.answered hcall hacquires (by rw [hdone]; rfl)
    rwa [hwish] at hanswer
  refine ⟨hpath, fun hheld => ?_, fun hreturned hkept => ?_⟩
  · obtain ⟨position, hposition⟩ := List.getElem?_of_mem hcall
    have hvideo : isVideo locator = true := by
      have hvideo := (hserving.filled.sound hposition).video
      rwa [hwish] at hvideo
    -- the file holds what some locator of the same place was served, and such locators are served
    -- alike
    obtain ⟨content, ⟨other, hother, hsaved, hplace, rfl⟩, hread⟩ := hserving.read_eq hheld
    rw [hread, halike other hsaved]
    exact ((Area.empty root budget).place_eq_iff hother hvideo).mp (hplace.trans hpath)
  · -- more given than returned means more acquired than freed
    have hplace := hserving.filled.place_eq locator
    rw [hpath.trans hplace.symm]
    exact Yard.freed_lt_acquired hreturned hkept

/-- The video of one directory. -/
def nestedVideo : String :=
  "https://h.org/a/b.webm"

/-- Another one, whose locator differs by a slash. -/
def flatVideo : String :=
  "https://h.org/ab.webm"

/-- The nested video is served with two bytes, all others with one. -/
def unlike (locator : String) : Text.Bytes :=
  if locator = nestedVideo then [1, 2] else [3]

/-- Two save the nested video, a third another one, and the first returns what
it was given. -/
def returning : List Event :=
  let work (position : Nat) (content : Text.Bytes) : Event := .work position (.ok content) none
  [.begin (.save nestedVideo), work 0 [], .begin (.save "https://h.org/c.webm"), work 1 [],
    work 1 [3], work 0 [1, 2], work 1 [], work 0 [], work 0 [], work 1 [], work 0 [], work 1 [],
    .begin (.save nestedVideo), work 2 [], .begin (.free nestedVideo), work 3 []]

/-- The second of them finds the nested video still. -/
theorem returning_held_as_served :
    (Yard.opening areaRoot 100 areaDisk).serves unlike returning = true ∧
      ((Yard.opening areaRoot 100 areaDisk).after returning).disk.read
        ((Area.empty areaRoot 100).place nestedVideo) = .ok [1, 2] := by
  have hserves : (Yard.opening areaRoot 100 areaDisk).serves unlike returning = true := by
    decide +kernel
  have halike : ∀ other, Event.begin (.save other) ∈ returning →
      stagedName other = stagedName nestedVideo → unlike other = unlike nestedVideo := by
    intro other hother hname
    have hcases : other = nestedVideo ∨ other = "https://h.org/c.webm" ∨ other = nestedVideo := by
      simpa [returning] using hother
    rcases hcases with rfl | rfl | rfl
    · rfl
    · exact absurd hname (by decide +kernel)
    · rfl
  have hcall : ((Yard.opening areaRoot 100 areaDisk).after returning).calls[2]? = some
      ⟨.save nestedVideo, .done (.ok ((Area.empty areaRoot 100).place nestedVideo)), 0, true⟩ := by
    decide +kernel
  obtain ⟨-, hread, -⟩ := held_as_served areaRoot 100 areaDisk unlike returning hserves nestedVideo
    halike _ (List.mem_of_getElem? hcall) _ rfl rfl
  exact ⟨hserves, hread (by decide +kernel)⟩

/-! ## §4. Locators of one name. -/

/-- While a file is held, whoever saves another locator of its name is given
that file, whatever the other locator is served with. -/
theorem save_of_held (fetch : String → Except Http.Error Text.Bytes) {area : Area}
    {locator other : String} (hname : stagedName other = stagedName locator)
    (hheld : (area.holding? (area.place locator)).isSome = true) (disk : Disk) :
    ∃ held, area.save fetch other disk = (.ok (area.place locator), held, disk) := by
  obtain ⟨holding, hholding⟩ := Option.isSome_iff_exists.mp hheld
  have hplace : area.place other = area.place locator := by rw [Area.place, hname, Area.place]
  have hfound : area.hold? (area.place other) = some (area.withHolding (area.place locator)
      { holding with holders := holding.holders + 1 }) := by
    rw [hplace, Area.hold?, hholding, Option.map_some]
  refine ⟨area.withHolding (area.place locator) { holding with holders := holding.holders + 1 }, ?_⟩
  -- the holding is found at once: one step, and nothing is fetched
  rw [Area.save, Task.run]
  simp only [Task.result?, Task.shortage?, Task.step, hfound]
  rw [Task.run]
  simp only [Task.result?, hplace]

/-- The nested video is saved, and while it is held the flat one. -/
def crossing : List Event :=
  let work (position : Nat) : Event := .work position (.ok [1, 2]) none
  [.begin (.save nestedVideo), work 0, work 0, work 0, work 0, work 0, .begin (.save flatVideo),
    work 1]

/-- Whoever saved the flat video is given the nested one. -/
theorem second_is_given_the_first :
    let yard := (Yard.opening areaRoot 100 areaDisk).after crossing
    (Yard.opening areaRoot 100 areaDisk).serves unlike crossing = true ∧
      yard.given = [nestedVideo, flatVideo] ∧ yard.returned = [] ∧
      yard.disk.read (yard.area.place flatVideo) = .ok [1, 2] ∧ unlike flatVideo = [3] := by
  decide +kernel

end BoardRelay.Staging
