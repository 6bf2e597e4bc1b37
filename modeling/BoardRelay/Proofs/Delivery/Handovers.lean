/-
  BoardRelay.Proofs.Delivery.Handovers
  ────────────────────────────────
  Many deliveries at once, in one staging area.  The staged video is counted
  by its holders, so it is there for each delivery until it is converted
  (`Handover.Steps`).  Of the converted file there is one for all deliveries of a
  video and nobody counts who needs it: as long as no delivery clears it while
  another is about to hand it on, everybody hands on a complete file
  (`handed_over_complete`).  Else the file may be gone by then
  (`cleared_before_handing`):

      saving ── converting ─────────────── handing ── freeing ── clearing
                   saving ── converting ─────────────────────────────── handing
-/
import BoardRelay.Delivery.Rehearsal
import BoardRelay.Proofs.Delivery.Converted
import BoardRelay.Proofs.Staging.Alone

namespace BoardRelay.Delivery

open BoardRelay.Staging

variable {σ : Type}

/-! ## §1. Deliveries at once. -/

/-- Deliveries under way, by number, and the depot that they share. -/
structure Floor (σ : Type) where
  depot : Depot σ
  deliveries : List Handover

/-- What may happen on a floor. -/
inductive Event where
  | arrives (send : Send)
  /-- The delivery of a number makes its next step. -/
  | turn (number : Nat)
  deriving DecidableEq

namespace Handover

/-- What a delivery is about to hand on. -/
def handing? : Handover → Option Send
  | .handing send => some send
  | _ => none

/-- What a delivery is about to clear. -/
def clearing? : Handover → Option Send
  | .clearing send _ => some send
  | _ => none

/-- The locator of the video that a delivery holds. -/
def held? : Handover → Option String
  | .converting send _ => some send.locator
  | .handing send => some send.locator
  | .freeing send _ => some send.locator
  | _ => none

/-- Whether a delivery holds the video at a path. -/
def holds (area : Area) (path : Disk.Path) (delivery : Handover) : Bool :=
  delivery.held?.any fun locator => area.place locator == path

end Handover

namespace Floor

/-- A floor that no file has come to. -/
def opening (root : Disk.Path) (budget : UInt64) (disk : Disk) (inner : σ) : Floor σ :=
  ⟨⟨Area.empty root budget, disk, inner⟩, []⟩

def handle (workshop : Workshop σ) (floor : Floor σ) : Event → Floor σ
  | .arrives send => { floor with deliveries := floor.deliveries ++ [.saving send] }
  | .turn number =>
    match floor.deliveries[number]? with
    | none => floor
    | some delivery =>
      let (delivery, depot) := delivery.step workshop floor.depot
      ⟨depot, floor.deliveries.set number delivery⟩

/-- The floor after some events. -/
def after (workshop : Workshop σ) (events : List Event) (floor : Floor σ) : Floor σ :=
  events.foldl (handle workshop) floor

/-- Whether an event clears no file that another delivery is about to hand
on. -/
def spares (floor : Floor σ) : Event → Bool
  | .arrives _ => true
  | .turn number =>
    (floor.deliveries[number]?.bind Handover.clearing?).all fun cleared =>
      floor.deliveries.all fun other => other.handing?.all fun send =>
        floor.depot.output send != floor.depot.output cleared

/-- Whether all events of a run do so. -/
def considerate (workshop : Workshop σ) (floor : Floor σ) : List Event → Bool
  | [] => true
  | event :: events =>
    floor.spares event && (floor.handle workshop event).considerate workshop events

end Floor

/-- Whether a converter makes a complete file of every file that is there, where
one can be made. -/
def Completes (complete : Text.Bytes → Text.Bytes → Prop) (converter : Converter) : Prop :=
  ∀ {staged output : Disk.Path} {disk : Disk} {content : Text.Bytes},
    disk.read staged = .ok content → disk.Takes output →
      ∃ bytes next, complete content bytes ∧ disk.write output bytes = .ok next ∧
        converter staged output disk = (.ok (), next)

/-- What deliveries rely on: every wanted video is served, its converted file can
be made, and the converter makes it. -/
structure Supplied (served : String → Text.Bytes) (complete : Text.Bytes → Text.Bytes → Prop)
    (wanted : String → Prop) (workshop : Workshop σ) (start : Depot σ) : Prop where
  fetch {locator : String} : isVideo locator = true → wanted locator →
    workshop.fetch locator = .ok (served locator)
  converter : Completes complete workshop.converter
  output {locator : String} : isVideo locator = true → wanted locator →
    start.disk.Takes (start.area.place (convertedLocator locator))

/-! ## §2. Files that nobody holds. -/

/-- The staging area of a depot, with no call under way. -/
def Depot.yard (depot : Depot σ) : Yard :=
  ⟨depot.area, depot.disk, []⟩

section Files

variable {fit : Disk.Path → Text.Bytes → Prop} {start : Yard} {area : Area} {disk left : Disk}
  {wish : Wish} {result : Result} {output path : Disk.Path}

/-- A change to a converted file is none to others of the directory. -/
theorem read_iff_of_changes (h : Disk.ChangesOnly [output] disk left)
    (houtput : IsConverted area.root output) (hentry : Disk.IsEntry area.root path)
    (hne : path ≠ output) (content : Text.Bytes) :
    left.read path = .ok content ↔ disk.read path = .ok content := by
  refine h.read_iff hentry (fun other hother => ?_) fun hmem => hne (List.mem_singleton.mp hmem)
  rw [List.mem_singleton.mp hother]
  exact houtput.isEntry

/-- What is held stays there when a converted file changes. -/
theorem filled_of_changes (h : Yard.Filled fit ⟨area, disk, []⟩ start)
    (hchanges : Disk.ChangesOnly [output] disk left) (houtput : IsConverted area.root output) :
    Yard.Filled fit ⟨area, left, []⟩ start := by
  refine ⟨h.root_eq, hchanges.locate_iff.trans h.located, nofun, nofun, fun hholding => ?_⟩
  have hheld := h.held hholding
  exact hheld.of_read (read_iff_of_changes hchanges houtput hheld.staged.isEntry
    (houtput.ne_staged hheld.staged).symm)

/-- A converted file is read as before after a call on a staged one. -/
theorem read_iff_of_passed {before : Area} (h : Passed fit wish start before disk result area left)
    (hvideo : isVideo wish.locator = true) (hpath : IsConverted before.root path)
    (content : Text.Bytes) : left.read path = .ok content ↔ disk.read path = .ok content := by
  have hstaged := before.isStaged_place hvideo
  exact h.changes.read_iff hstaged.isEntry hpath.isEntry (hpath.ne_staged hstaged)
    fun number hpart => hpath.ne_part hpart rfl

/-- At every path, a call that was given its file is one holder more, and one that
lets its file go at most one less. -/
theorem holders_of_passed {before : Area} (h : Passed fit wish start before disk result area left)
    (path : Disk.Path) : before.holders path +
        (wish.acquires && result.isOk && before.place wish.locator == path).toNat ≤
      area.holders path + (!wish.acquires && before.place wish.locator == path).toNat := by
  by_cases hplace : before.place wish.locator = path
  · subst hplace
    rw [beq_self_eq_true, Bool.and_true, Bool.and_true]
    exact h.holders
  · rw [beq_false_of_ne hplace, Bool.and_false, Bool.and_false, Area.holders, Area.holders,
      h.others (Ne.symm hplace)]

end Files

/-! ## §3. One step. -/

/-- How things stand with a delivery: what it is about to hand on is complete. -/
def Handover.Stands (served : String → Text.Bytes) (complete : Text.Bytes → Text.Bytes → Prop)
    (wanted : String → Prop) (area : Area) (disk : Disk) : Handover → Prop
  | .saving send => wanted send.locator
  | .converting send staged => isVideo send.locator = true ∧ wanted send.locator ∧
    staged = area.place send.locator
  | .handing send => isVideo send.locator = true ∧ ∃ content bytes,
    area.Fits served wanted (area.place send.locator) content ∧ complete content bytes ∧
      disk.read (area.place (convertedLocator send.locator)) = .ok bytes
  | .freeing send _ => isVideo send.locator = true
  | .clearing send _ => isVideo send.locator = true
  | .done _ => True

/-- What a step of a delivery does to a converted file. -/
inductive Treats (served : String → Text.Bytes) (complete : Text.Bytes → Text.Bytes → Prop)
    (wanted : String → Prop) (area : Area) (delivery : Handover) (disk left : Disk)
    (path : Disk.Path) : Prop where
  | leaves (hread : ∀ content, left.read path = .ok content ↔ disk.read path = .ok content)
  | renews {locator : String} {content bytes : Text.Bytes} (hvideo : isVideo locator = true)
      (hpath : path = area.place (convertedLocator locator))
      (hfits : area.Fits served wanted (area.place locator) content)
      (hcomplete : complete content bytes) (hread : left.read path = .ok bytes)
  | clears {send : Send} (hclearing : delivery.clearing? = some send)
      (hpath : path = area.place (convertedLocator send.locator))

/-- What a step of a delivery does: held videos are there, the holders are
counted, and a converted file is left, renewed or cleared. -/
structure Handover.Steps (served : String → Text.Bytes)
    (complete : Text.Bytes → Text.Bytes → Prop) (wanted : String → Prop) (start depot : Depot σ)
    (before : Handover) (after : Handover × Depot σ) : Prop where
  filled : after.2.yard.Filled (start.area.Fits served wanted) start.yard
  takes {path : Disk.Path} : after.2.disk.Takes path ↔ depot.disk.Takes path
  stands : after.1.Stands served complete wanted start.area after.2.disk
  holders (path : Disk.Path) : depot.area.holders path + (after.1.holds start.area path).toNat ≤
    after.2.area.holders path + (before.holds start.area path).toNat
  converted {path : Disk.Path} : IsConverted start.area.root path →
    Treats served complete wanted start.area before depot.disk after.2.disk path

section Step

variable {served : String → Text.Bytes} {complete : Text.Bytes → Text.Bytes → Prop}
  {wanted : String → Prop} {workshop : Workshop σ} {start depot : Depot σ} {send : Send}

theorem output_eq (hfilled : depot.yard.Filled (start.area.Fits served wanted) start.yard)
    (send : Send) : depot.output send = start.area.place (convertedLocator send.locator) :=
  hfilled.place_eq (convertedLocator send.locator)

/-- A step that changes neither the area nor the disk. -/
theorem Handover.steps_of_same
    (hfilled : depot.yard.Filled (start.area.Fits served wanted) start.yard)
    {before after : Handover} {inner : σ}
    (hstands : after.Stands served complete wanted start.area depot.disk)
    (hholds : ∀ path, after.holds start.area path = before.holds start.area path) :
    before.Steps served complete wanted start depot (after, { depot with inner }) := by
  refine ⟨hfilled, Iff.rfl, hstands, fun path => ?_, fun _ => .leaves fun _ => Iff.rfl⟩
  rw [hholds]

/-- A step that is a call on the staged video. -/
theorem Handover.steps_of_passed {wish : Wish} {result : Result} {area : Area} {left : Disk}
    (hfilled : depot.yard.Filled (start.area.Fits served wanted) start.yard)
    (hpassed : Passed (start.area.Fits served wanted) wish start.yard depot.area depot.disk result
      area left) (hvideo : isVideo wish.locator = true) {before after : Handover}
    (hstands : after.Stands served complete wanted start.area left)
    (hafter : ∀ path, after.holds start.area path =
      (wish.acquires && result.isOk && start.area.place wish.locator == path))
    (hbefore : ∀ path, before.holds start.area path =
      (!wish.acquires && start.area.place wish.locator == path)) :
    before.Steps served complete wanted start depot (after, { depot with area, disk := left }) := by
  have hplace : depot.area.place wish.locator = start.area.place wish.locator :=
    hfilled.place_eq wish.locator
  refine ⟨hpassed.filled, hpassed.changes.takes_iff, hstands, fun path => ?_,
    fun hpath => .leaves (read_iff_of_passed hpassed hvideo ?_)⟩
  · -- the call's own holder is the only one that has come or gone
    have hholders := holders_of_passed hpassed path
    rw [hplace] at hholders
    rw [hafter, hbefore]
    exact hholders
  · have hroot : depot.area.root = start.area.root := hfilled.root_eq
    rwa [hroot]

/-- A step that changes the converted file of a video. -/
theorem Handover.steps_of_changes {left : Disk}
    (hfilled : depot.yard.Filled (start.area.Fits served wanted) start.yard)
    (hvideo : isVideo send.locator = true)
    (hchanges : Disk.ChangesOnly [depot.output send] depot.disk left) {before after : Handover}
    (hstands : after.Stands served complete wanted start.area left)
    (hholds : ∀ path, after.holds start.area path = before.holds start.area path)
    (hown : Treats served complete wanted start.area before depot.disk left (depot.output send)) :
    before.Steps served complete wanted start depot (after, { depot with disk := left }) := by
  have houtput := depot.area.isConverted_place hvideo
  refine ⟨filled_of_changes hfilled hchanges houtput, hchanges.takes_iff, hstands,
    fun path => ?_, fun {path} hpath => ?_⟩
  · rw [hholds]
  · -- the output is this send's to treat; any other output is not touched by the change
    by_cases heq : path = depot.output send
    · rw [heq]
      exact hown
    · have hroot : depot.area.root = start.area.root := hfilled.root_eq
      rw [← hroot] at hpath
      exact .leaves (read_iff_of_changes hchanges houtput hpath.isEntry heq)

/-- A video is staged and then held; everything else is handed on at once. -/
theorem Handover.steps_saving (hsupplied : Supplied served complete wanted workshop start)
    (hfilled : depot.yard.Filled (start.area.Fits served wanted) start.yard)
    (hwanted : wanted send.locator) :
    (Handover.saving send).Steps served complete wanted start depot
      (step workshop (.saving send) depot) := by
  rw [step]
  by_cases hvideo : isVideo send.locator = true
  · rw [if_pos hvideo, Depot.save]
    -- what the call fetches, should it fetch, is what is served
    have hpassed : Passed (start.area.Fits served wanted) (.save send.locator) start.yard depot.area
        depot.disk (depot.area.save workshop.fetch send.locator depot.disk).1
        (depot.area.save workshop.fetch send.locator depot.disk).2.1
        (depot.area.save workshop.fetch send.locator depot.disk).2.2 := by
      refine hfilled.passed hvideo trivial fun content hfetch => ?_
      cases (hsupplied.fetch hvideo hwanted).symm.trans hfetch
      exact ⟨send.locator, hvideo, hwanted, (hfilled.place_eq send.locator).symm, rfl⟩
    generalize depot.area.save workshop.fetch send.locator depot.disk = saved at hpassed
    obtain ⟨result, area, left⟩ := saved
    -- a failed call holds nothing; one that is answered holds the video from here on
    cases result with
    | error e => exact steps_of_passed hfilled hpassed hvideo trivial (fun _ => rfl) fun _ => rfl
    | ok staged =>
      have hstaged : staged = start.area.place send.locator :=
        (hpassed.answered rfl rfl).trans (hfilled.place_eq send.locator)
      exact steps_of_passed hfilled hpassed hvideo ⟨hvideo, hwanted, hstaged⟩ (fun _ => rfl)
        fun _ => rfl
  · rw [if_neg hvideo]
    exact steps_of_same hfilled trivial fun _ => rfl

/-- A video that is held is there, and is made into a complete file. -/
theorem Handover.step_converting (hsupplied : Supplied served complete wanted workshop start)
    (hfilled : depot.yard.Filled (start.area.Fits served wanted) start.yard)
    (htakes : ∀ path, depot.disk.Takes path ↔ start.disk.Takes path)
    (hvideo : isVideo send.locator = true) (hwanted : wanted send.locator)
    (hheld : 0 < depot.area.holders (start.area.place send.locator)) :
    ∃ content bytes left, start.area.Fits served wanted (start.area.place send.locator) content ∧
      complete content bytes ∧ depot.disk.write (depot.output send) bytes = .ok left ∧
      step workshop (.converting send (start.area.place send.locator)) depot =
        (.handing send, { depot with disk := left }) := by
  obtain ⟨content, hfits, hread⟩ : ∃ content,
      start.area.Fits served wanted (start.area.place send.locator) content ∧
        depot.disk.read (start.area.place send.locator) = .ok content := by
    -- with a holder there is a holding, and a held file is on the disk
    cases hholding : depot.area.holding? (start.area.place send.locator) with
    | none =>
      rw [Area.holders_of_none hholding] at hheld
      cases hheld
    | some holding => exact (hfilled.held hholding).there
  have houtput : depot.disk.Takes (depot.output send) := by
    rw [htakes, output_eq hfilled]
    exact hsupplied.output hvideo hwanted
  obtain ⟨bytes, left, hcomplete, hwrite, hconverts⟩ := hsupplied.converter hread houtput
  exact ⟨content, bytes, left, hfits, hcomplete, hwrite, by rw [step, hconverts]⟩

/-- A conversion makes the one converted file of its video again. -/
theorem Handover.steps_converting (hsupplied : Supplied served complete wanted workshop start)
    (hfilled : depot.yard.Filled (start.area.Fits served wanted) start.yard)
    (htakes : ∀ path, depot.disk.Takes path ↔ start.disk.Takes path)
    (hvideo : isVideo send.locator = true) (hwanted : wanted send.locator)
    (hheld : 0 < depot.area.holders (start.area.place send.locator)) :
    (Handover.converting send (start.area.place send.locator)).Steps served complete wanted start
      depot (step workshop (.converting send (start.area.place send.locator)) depot) := by
  obtain ⟨content, bytes, left, hfits, hcomplete, hwrite, hstep⟩ :=
    step_converting hsupplied hfilled htakes hvideo hwanted hheld
  have houtput := output_eq hfilled send
  have hread := Disk.read_write hwrite
  rw [hstep]
  refine steps_of_changes hfilled hvideo (Disk.changesOnly_write hwrite)
    ⟨hvideo, content, bytes, hfits, hcomplete, ?_⟩ (fun _ => rfl)
    (.renews hvideo houtput hfits hcomplete hread)
  rwa [houtput] at hread

/-- Who lets the staged video go holds it no longer. -/
theorem Handover.steps_freeing
    (hfilled : depot.yard.Filled (start.area.Fits served wanted) start.yard)
    (hvideo : isVideo send.locator = true) (result : Except Error Unit) :
    (Handover.freeing send result).Steps served complete wanted start depot
      (step workshop (.freeing send result) depot) := by
  have hpassed : Passed (start.area.Fits served wanted) (.free send.locator) start.yard depot.area
      depot.disk (depot.area.free send.locator depot.disk).1
      (depot.area.free send.locator depot.disk).2.1
      (depot.area.free send.locator depot.disk).2.2 :=
    hfilled.passed hvideo trivial nofun
  exact steps_of_passed hfilled hpassed hvideo hvideo (fun _ => rfl) fun _ => rfl

/-- What is cleared is the one converted file of the video, and no staged one. -/
theorem Handover.steps_clearing
    (hfilled : depot.yard.Filled (start.area.Fits served wanted) start.yard)
    (hvideo : isVideo send.locator = true) (result : Except Error Unit) :
    (Handover.clearing send result).Steps served complete wanted start depot
      (step workshop (.clearing send result) depot) := by
  rw [step]
  by_cases hthere : depot.disk.isThere (depot.output send) = true
  · -- the output is no video of the area, so freeing it removes the file and touches no holding
    obtain ⟨harea, hremoval⟩ :=
      Area.free_of_not_video (isVideo_convertedLocator send.locator) depot.area depot.disk
    rw [if_pos hthere, Depot.free]
    generalize depot.area.free (convertedLocator send.locator) depot.disk = freed at harea hremoval
    obtain ⟨freed, area, left⟩ := freed
    cases harea
    exact steps_of_changes hfilled hvideo hremoval.changesOnly trivial (fun _ => rfl)
      (.clears rfl (output_eq hfilled send))
  · rw [if_neg hthere]
    exact steps_of_same hfilled trivial fun _ => rfl

/-- All that a step of a delivery does that stands as it should and is counted
among the holders of what it holds. -/
theorem Handover.steps (hsupplied : Supplied served complete wanted workshop start)
    (hfilled : depot.yard.Filled (start.area.Fits served wanted) start.yard)
    (htakes : ∀ path, depot.disk.Takes path ↔ start.disk.Takes path) {delivery : Handover}
    (hstands : delivery.Stands served complete wanted start.area depot.disk)
    (hheld : ∀ path, delivery.holds start.area path = true → 0 < depot.area.holders path) :
    delivery.Steps served complete wanted start depot (delivery.step workshop depot) := by
  cases delivery with
  | saving send => exact steps_saving hsupplied hfilled hstands
  | converting send staged =>
    obtain ⟨hvideo, hwanted, rfl⟩ := hstands
    exact steps_converting hsupplied hfilled htakes hvideo hwanted (hheld _ (beq_self_eq_true _))
  | handing send =>
    -- to hand a file on is to read it
    exact steps_of_same hfilled hstands.1 fun _ => rfl
  | freeing send result => exact steps_freeing hfilled hstands result
  | clearing send result => exact steps_clearing hfilled hstands result
  | done result => exact steps_of_same hfilled trivial fun _ => rfl

end Step

/-! ## §4. Every run. -/

/-- What a run keeps: each delivery stands as it should, and a path has no fewer
holders than deliveries that hold it. -/
structure Floor.Sound (served : String → Text.Bytes) (complete : Text.Bytes → Text.Bytes → Prop)
    (wanted : String → Prop) (start : Depot σ) (floor : Floor σ) : Prop where
  filled : floor.depot.yard.Filled (start.area.Fits served wanted) start.yard
  takes (path : Disk.Path) : floor.depot.disk.Takes path ↔ start.disk.Takes path
  stands {delivery : Handover} : delivery ∈ floor.deliveries →
    delivery.Stands served complete wanted start.area floor.depot.disk
  holders (path : Disk.Path) : floor.deliveries.countP (·.holds start.area path) ≤
    floor.depot.area.holders path

section Run

variable {served : String → Text.Bytes} {complete : Text.Bytes → Text.Bytes → Prop}
  {wanted : String → Prop} {workshop : Workshop σ} {start : Depot σ} {floor : Floor σ}
  {number : Nat} {delivery other : Handover}

namespace Floor

theorem sound_opening (served : String → Text.Bytes) (complete : Text.Bytes → Text.Bytes → Prop)
    (wanted : String → Prop) (root : Disk.Path) (budget : UInt64) (disk : Disk) (inner : σ) :
    (opening root budget disk inner).Sound served complete wanted
      (opening root budget disk inner).depot :=
  ⟨(Yard.kept_opening _ root budget disk).filled, fun _ => Iff.rfl, nofun, fun _ => Nat.le_refl _⟩

/-- A path that a delivery holds has a holder. -/
theorem Sound.holders_pos (h : floor.Sound served complete wanted start)
    (hmem : delivery ∈ floor.deliveries) {path : Disk.Path}
    (hholds : delivery.holds start.area path = true) : 0 < floor.depot.area.holders path :=
  Nat.lt_of_lt_of_le (List.countP_pos_iff.mpr ⟨delivery, hmem, hholds⟩) (h.holders path)

/-- What is cleared is none of what others are about to hand on. -/
theorem output_ne_of_spares (h : floor.spares (.turn number) = true)
    (hdelivery : floor.deliveries[number]? = some delivery) {cleared send : Send}
    (hclearing : delivery.clearing? = some cleared) (hother : other ∈ floor.deliveries)
    (hhanding : other.handing? = some send) :
    floor.depot.output send ≠ floor.depot.output cleared := by
  rw [spares, hdelivery, Option.bind_some, hclearing, Option.all_some] at h
  have hspared := List.all_eq_true.mp h other hother
  rwa [hhanding, Option.all_some, bne_iff_ne] at hspared

/-- How things stand with others stays so when a delivery makes a step that
spares them. -/
theorem Sound.stands_other (h : floor.Sound served complete wanted start)
    (hdelivery : floor.deliveries[number]? = some delivery)
    (hspares : floor.spares (.turn number) = true) {after : Handover × Depot σ}
    (hsteps : delivery.Steps served complete wanted start floor.depot after)
    (hother : other ∈ floor.deliveries) :
    other.Stands served complete wanted start.area after.2.disk := by
  have hstands := h.stands hother
  -- only a file about to be handed on says anything of the disk
  cases other with
  | handing send =>
    obtain ⟨hvideo, content, bytes, hfits, hcomplete, hread⟩ := hstands
    cases hsteps.converted (start.area.isConverted_place hvideo) with
    | leaves hsame => exact ⟨hvideo, content, bytes, hfits, hcomplete, (hsame bytes).mpr hread⟩
    | renews hvideo' hpath hfits' hcomplete' hread' =>
      -- the other video has the same name, so its file is as good
      rw [← (start.area.converted_eq_iff hvideo hvideo').mp hpath] at hfits'
      exact ⟨hvideo, _, _, hfits', hcomplete', hread'⟩
    | clears hclearing hpath =>
      refine absurd ?_ (output_ne_of_spares hspares hdelivery hclearing hother rfl)
      rw [output_eq h.filled, output_eq h.filled, hpath]
  | _ => exact hstands

/-- **A step of one delivery that spares the others keeps the floor sound.** -/
theorem Sound.turned (h : floor.Sound served complete wanted start)
    (hsupplied : Supplied served complete wanted workshop start)
    (hdelivery : floor.deliveries[number]? = some delivery)
    (hspares : floor.spares (.turn number) = true) :
    Sound served complete wanted start ⟨(delivery.step workshop floor.depot).2,
      floor.deliveries.set number (delivery.step workshop floor.depot).1⟩ := by
  have hmem := List.mem_of_getElem? hdelivery
  have hsteps :=
    Handover.steps hsupplied h.filled h.takes (h.stands hmem) fun _ => h.holders_pos hmem
  refine ⟨hsteps.filled, fun path => hsteps.takes.trans (h.takes path), fun hother => ?_,
    fun path => ?_⟩
  · rcases List.mem_or_eq_of_mem_set hother with hother | rfl
    · exact h.stands_other hdelivery hspares hsteps hother
    · exact hsteps.stands
  · -- one delivery more or less holds the path, and so does one holder
    have hcount := countP_set (fun other : Handover => other.holds start.area path) hdelivery
      (delivery.step workshop floor.depot).1
    have hbefore := h.holders path
    have hown := hsteps.holders path
    dsimp only at hcount ⊢
    omega

/-- Every event that spares what others are about to hand on keeps the floor
sound. -/
theorem Sound.handle (h : floor.Sound served complete wanted start)
    (hsupplied : Supplied served complete wanted workshop start) {event : Event}
    (hwanted : ∀ send, event = .arrives send → wanted send.locator)
    (hspares : floor.spares event = true) :
    (floor.handle workshop event).Sound served complete wanted start := by
  cases event with
  -- a new send stands where its locator is wanted, and holds nothing yet
  | arrives send =>
    refine ⟨h.filled, h.takes, fun hmem => ?_, fun path => ?_⟩
    · rcases List.mem_append.mp hmem with hmem | hnew
      · exact h.stands hmem
      · cases List.mem_singleton.mp hnew
        exact hwanted send rfl
    · rw [Floor.handle, List.countP_append]
      exact h.holders path
  | turn number =>
    rw [Floor.handle]
    cases hdelivery : floor.deliveries[number]? with
    | none => exact h
    | some delivery => exact h.turned hsupplied hdelivery hspares

/-- **So does every considerate run**, and with it each file is complete that
somebody is about to hand on. -/
theorem Sound.after (h : floor.Sound served complete wanted start)
    (hsupplied : Supplied served complete wanted workshop start) {events : List Event}
    (hwanted : ∀ send, Event.arrives send ∈ events → wanted send.locator)
    (hconsiderate : floor.considerate workshop events = true) :
    (floor.after workshop events).Sound served complete wanted start := by
  -- Induction on the events; the floor changes with each of them, so it is not fixed.
  induction events generalizing floor with
  | nil => exact h
  | cons event events ih =>
    rw [considerate, Bool.and_eq_true] at hconsiderate
    refine ih (h.handle hsupplied (fun send hevent => hwanted send ?_) hconsiderate.1)
      (fun send hlater => hwanted send (List.mem_cons_of_mem _ hlater)) hconsiderate.2
    rw [hevent]
    exact List.mem_cons_self

end Floor

end Run

/-- Whether a video can be staged: it is, or there is space and its file can be
made. -/
def Depot.Room (locator : String) (content : Text.Bytes) (depot : Depot σ) : Prop :=
  (depot.area.holding? (depot.area.place locator)).isSome = true ∨
    depot.area.ledger.fits (sizeOf content) = true ∧
      depot.disk.Takes (depot.area.part locator) ∧ depot.disk.Takes (depot.area.place locator)

/-- A video for which there is room is staged. -/
theorem Handover.step_saving {workshop : Workshop σ} {depot : Depot σ} {send : Send}
    {content : Text.Bytes} (hvideo : isVideo send.locator = true)
    (hfetch : workshop.fetch send.locator = .ok content)
    (hroom : depot.Room send.locator content) :
    (step workshop (.saving send) depot).1 =
      .converting send (depot.area.place send.locator) := by
  have hsave := Area.save_eq_ok hfetch hroom
  rw [step, if_pos hvideo, Depot.save]
  generalize depot.area.save workshop.fetch send.locator depot.disk = saved at hsave
  obtain ⟨result, area, left⟩ := saved
  cases hsave
  rfl

/-- In every run of deliveries that share a staging area, with any order of
steps: if nobody clears a file that another is about to hand on, then every
video for which there is room is staged, every staged video is converted, and
whoever is about to hand on a file finds a complete one, made from a video of
the same name; so from its own, if the videos of its name are served alike. -/
theorem handed_over_complete (root : Disk.Path) (budget : UInt64) (disk : Disk) (inner : σ)
    (served : String → Text.Bytes) (complete : Text.Bytes → Text.Bytes → Prop)
    (workshop : Workshop σ) (events : List Event)
    (hsupplied : Supplied served complete
      (fun locator => ∃ send, Event.arrives send ∈ events ∧ send.locator = locator) workshop
      (Floor.opening root budget disk inner).depot)
    (hconsiderate : (Floor.opening root budget disk inner).considerate workshop events = true) :
    let floor := (Floor.opening root budget disk inner).after workshop events
    ∀ send : Send,
      (.saving send ∈ floor.deliveries → isVideo send.locator = true →
        floor.depot.Room send.locator (served send.locator) →
        (Handover.step workshop (.saving send) floor.depot).1 =
          .converting send (floor.depot.area.place send.locator)) ∧
      (∀ staged, .converting send staged ∈ floor.deliveries →
        (Handover.step workshop (.converting send staged) floor.depot).1 = .handing send) ∧
      (.handing send ∈ floor.deliveries →
        ∃ bytes, floor.depot.disk.read (floor.depot.output send) = .ok bytes ∧
          (∃ other, Event.arrives other ∈ events ∧
            stagedName other.locator = stagedName send.locator ∧
            complete (served other.locator) bytes) ∧
          ((∀ other, Event.arrives other ∈ events → isVideo other.locator = true →
            stagedName other.locator = stagedName send.locator →
            served other.locator = served send.locator) →
            complete (served send.locator) bytes)) := by
  intro floor send
  have hwanted : ∀ send, Event.arrives send ∈ events →
      ∃ other, Event.arrives other ∈ events ∧ other.locator = send.locator :=
    fun send hmem => ⟨send, hmem, rfl⟩
  have hsound := (Floor.sound_opening served complete _ root budget disk inner).after hsupplied
    hwanted hconsiderate
  refine ⟨fun hmem hvideo hroom => ?_, fun staged hmem => ?_, fun hmem => ?_⟩
  · exact Handover.step_saving hvideo (hsupplied.fetch hvideo (hsound.stands hmem)) hroom
  · -- whoever converts a video is one of its holders, so it is there
    obtain ⟨hvideo, hmine, rfl⟩ := hsound.stands hmem
    obtain ⟨-, -, left, -, -, -, hstep⟩ := Handover.step_converting hsupplied hsound.filled
      hsound.takes hvideo hmine (hsound.holders_pos hmem (beq_self_eq_true _))
    exact congrArg Prod.fst hstep
  · obtain ⟨hvideo, content, bytes, hfits, hcomplete, hread⟩ := hsound.stands hmem
    -- the file was made from some video of that path, so of that name
    obtain ⟨locator, hother, ⟨other, harrives, rfl⟩, hplace, rfl⟩ := hfits
    have hname := (Area.place_eq_iff hother hvideo _).mp hplace
    refine ⟨bytes, ?_, ⟨other, harrives, hname, hcomplete⟩, fun halike => ?_⟩
    · rw [output_eq hsound.filled]
      exact hread
    · rwa [← halike other harrives hother hname]

/-! ## §5. Two deliveries of one video. -/

/-- What is copied is complete. -/
theorem completes_copying : Completes (fun content bytes => content = bytes) .copying := by
  intro staged output disk content hread htakes
  obtain ⟨next, hwrite⟩ := htakes.write content
  have hcopy : (disk.read staged).bind (disk.write output) = .ok next := by
    rw [hread]
    exact hwrite
  exact ⟨content, next, rfl, hwrite, by rw [Converter.copying, hcopy]⟩

/-- A video of two bytes that is copied. -/
def copyShop : Workshop (List Record) :=
  ⟨fun _ => .ok [1, 2], .copying, .recorder false⟩

def wantedVideo : Send :=
  ⟨[⟨1, 50⟩], "https://h.org/a.webm", "7"⟩

/-- The first delivery clears its file, and then the second converts the video
again. -/
def inTurn : List Event :=
  [.arrives wantedVideo, .arrives wantedVideo, .turn 0, .turn 1, .turn 0, .turn 0, .turn 0, .turn 0,
    .turn 1]

/-- The second delivery converts the video before the first clears its file. -/
def crossed : List Event :=
  [.arrives wantedVideo, .arrives wantedVideo, .turn 0, .turn 1, .turn 0, .turn 1, .turn 0, .turn 0,
    .turn 0]

/-- The copying workshop makes all that a run of such deliveries relies on. -/
theorem supplied_copyShop {events : List Event}
    (h : ∀ send, Event.arrives send ∈ events → send = wantedVideo) :
    Supplied (fun _ => [1, 2]) (fun content bytes => content = bytes)
      (fun locator => ∃ send, Event.arrives send ∈ events ∧ send.locator = locator) copyShop
      (Floor.opening areaRoot 100 areaDisk []).depot := by
  refine ⟨fun _ _ => rfl, completes_copying, ?_⟩
  rintro locator - ⟨send, hmem, rfl⟩
  cases h send hmem
  have hwrites : (areaDisk.write ((Area.empty areaRoot 100).place
      (convertedLocator wantedVideo.locator)) []).toOption.isSome = true := by decide +kernel
  obtain ⟨next, hnext⟩ := Option.isSome_iff_exists.mp hwrites
  exact ⟨next, eq_ok_of_toOption hnext⟩

/-- The second delivery finds its own file. -/
theorem inTurn_handed_over :
    (Floor.opening areaRoot 100 areaDisk []).considerate copyShop inTurn = true ∧
      let floor := (Floor.opening areaRoot 100 areaDisk []).after copyShop inTurn
      floor.deliveries[1]? = some (.handing wantedVideo) ∧
        floor.depot.disk.read (floor.depot.output wantedVideo) = .ok [1, 2] := by
  have hconsiderate : (Floor.opening areaRoot 100 areaDisk []).considerate copyShop inTurn =
      true := by decide +kernel
  have hhanding : ((Floor.opening areaRoot 100 areaDisk []).after copyShop inTurn).deliveries[1]? =
      some (.handing wantedVideo) := by decide +kernel
  obtain ⟨-, -, hhanded⟩ := handed_over_complete areaRoot 100 areaDisk [] (fun _ => [1, 2])
    (fun content bytes => content = bytes) copyShop inTurn (supplied_copyShop (by simp [inTurn]))
    hconsiderate wantedVideo
  obtain ⟨bytes, hread, -, hown⟩ := hhanded (List.mem_of_getElem? hhanding)
  refine ⟨hconsiderate, hhanding, ?_⟩
  rw [hread, hown fun _ _ _ _ => rfl]

/-- The file of the second delivery is gone when it is about to hand it on. -/
theorem cleared_before_handing :
    Supplied (fun _ => [1, 2]) (fun content bytes => content = bytes)
        (fun locator => ∃ send, Event.arrives send ∈ crossed ∧ send.locator = locator) copyShop
        (Floor.opening areaRoot 100 areaDisk []).depot ∧
      let floor := (Floor.opening areaRoot 100 areaDisk []).after copyShop crossed
      floor.deliveries = [.done (.ok ()), .handing wantedVideo] ∧
        floor.depot.disk.read (floor.depot.output wantedVideo) = .error .notFound :=
  ⟨supplied_copyShop (by simp [crossed]), by decide +kernel⟩

end BoardRelay.Delivery
