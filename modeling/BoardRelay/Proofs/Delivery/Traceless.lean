/-
  BoardRelay.Proofs.Delivery.Traceless
  ────────────────────────────────
  What is left of a delivery that nobody disturbs.  Whichever of its stages
  fails, and whoever else holds the video, the staging area counts and holds
  afterwards what it did before, and no file is there that was not; what it
  answers, and what it asks of the sink behind it, is decided by the first
  stage that fails (`delivery_leaves_no_trace`).
-/
import BoardRelay.Proofs.Delivery.Handovers
import BoardRelay.Proofs.Staging.Solo
import BoardRelay.Proofs.Staging.Use

namespace BoardRelay.Delivery

open BoardRelay.Staging

variable {σ : Type} {workshop : Workshop σ} {send : Send} {depot : Depot σ}

/-! ## §1. The stages of a delivery. -/

/-- How a delivery goes on once its video is staged or not. -/
def Handover.ofSaved (send : Send) : Result → Handover
  | .error e => .done (.error e)
  | .ok staged => .converting send staged

/-- What a delivery of a video should answer, and what it should leave of the
sink behind it, when saving the video has come to this. -/
def Workshop.outcome (workshop : Workshop σ) (send : Send) (output : Disk.Path) (saved : Result)
    (disk : Disk) (inner : σ) : Except Error Unit × σ :=
  match saved with
  | .error e => (.error e, inner)
  | .ok staged =>
    match workshop.converter staged output disk with
    | (.error e, _) => (.error e, inner)
    | (.ok (), converted) =>
      workshop.inner.upload ⟨send.receivers, output, send.caption⟩ converted inner

/-- A depot once the video of a delivery and its converted file have been let
go. -/
def Depot.closed (send : Send) (depot : Depot σ) : Depot σ :=
  let freed := (depot.free send.locator).2
  if freed.disk.isThere (freed.output send) then
    (freed.free (convertedLocator send.locator)).2
  else freed

namespace Handover

/-- A delivery that is done stays as it is. -/
theorem run_done (workshop : Workshop σ) (result : Except Error Unit) (depot : Depot σ) :
    run workshop (.done result) depot = (result, depot) := by
  rw [run]
  rfl

/-- One that is not done makes a step and goes on. -/
theorem run_of_unfinished {delivery : Handover} (h : delivery.result? = none) :
    run workshop delivery depot =
      run workshop (step workshop delivery depot).1 (step workshop delivery depot).2 := by
  rw [run]
  split
  · next heq => cases h.symm.trans heq
  · rfl

/-- A delivery with its result lets the video and the converted file go, and
keeps the result. -/
theorem run_freeing (result : Except Error Unit) :
    run workshop (.freeing send result) depot = (result, depot.closed send) := by
  rw [run_of_unfinished rfl, step, run_of_unfinished rfl, step, Depot.closed]
  dsimp only
  split
  · rw [run_done]
  · rw [run_done]

/-- A delivery whose video is staged answers what it should, and then lets
everything go. -/
theorem run_converting (staged : Disk.Path) :
    run workshop (.converting send staged) depot =
      ((workshop.outcome send (depot.output send) (.ok staged) depot.disk depot.inner).1,
        Depot.closed send ⟨depot.area,
          (workshop.converter staged (depot.output send) depot.disk).2,
          (workshop.outcome send (depot.output send) (.ok staged) depot.disk depot.inner).2⟩) := by
  rw [run_of_unfinished rfl, step, Workshop.outcome]
  -- a conversion that fails goes to the clean-up, one that succeeds hands the file over first
  cases hconverted : workshop.converter staged (depot.output send) depot.disk with
  | mk result disk =>
    cases result with
    | error e => exact run_freeing _
    | ok _ =>
      show run workshop (.handing send) { depot with disk } = _
      rw [run_of_unfinished rfl, step]
      exact run_freeing _

end Handover

/-- A delivery of a video saves it first. -/
theorem deliver_of_video (hvideo : isVideo send.locator = true) (workshop : Workshop σ)
    (depot : Depot σ) : ∃ saved area disk,
      Task.Solo workshop.fetch (.looking send.locator) depot.area depot.disk saved area disk ∧
      deliver workshop send depot =
        Handover.run workshop (.ofSaved send saved) ⟨area, disk, depot.inner⟩ := by
  refine ⟨_, _, _, Task.solo_run workshop.fetch _ _ _, ?_⟩
  rw [deliver, Handover.run_of_unfinished rfl, Handover.step, if_pos hvideo, Depot.save, Area.save]
  cases Task.run workshop.fetch (.looking send.locator) depot.area depot.disk with
  | mk saved rest =>
    cases saved with
    | error e => rfl
    | ok staged => rfl

/-- Everything else goes on to the sink behind as it is. -/
theorem deliver_of_other (hother : isVideo send.locator = false) (workshop : Workshop σ)
    (depot : Depot σ) : deliver workshop send depot =
      ((workshop.inner.send send depot.disk depot.inner).1,
        { depot with inner := (workshop.inner.send send depot.disk depot.inner).2 }) := by
  rw [deliver, Handover.run_of_unfinished rfl, Handover.step, if_neg (Bool.not_eq_true _ ▸ hother)]
  exact Handover.run_done _ _ _

/-! ## §2. Letting everything go. -/

section Close

variable {area : Area} {disk : Disk}

theorem Depot.free_snd (locator : String) (depot : Depot σ) :
    (depot.free locator).2 = { depot with
      area := (depot.area.free locator depot.disk).2.1
      disk := (depot.area.free locator depot.disk).2.2 } := by
  unfold Depot.free
  generalize depot.area.free locator depot.disk = outcome
  rfl

/-- Letting files go asks nothing of the sink behind. -/
theorem Depot.closed_inner (send : Send) (depot : Depot σ) :
    (depot.closed send).inner = depot.inner := by
  unfold Depot.closed
  simp only [Depot.free_snd]
  split
  · rfl
  · rfl

/-- Once the video is let go, the converted file goes too. -/
theorem Depot.closed_swept (hvideo : isVideo send.locator = true) {root : Area}
    (hroot : (area.free send.locator disk).2.1.root = root.root) (inner : σ) :
    (Depot.closed send ⟨area, disk, inner⟩).area = (area.free send.locator disk).2.1 ∧
      Disk.Swept [root.place (convertedLocator send.locator)] (area.free send.locator disk).2.2
        (Depot.closed send ⟨area, disk, inner⟩).disk := by
  unfold Depot.closed
  simp only [Depot.free_snd, Depot.output]
  generalize (area.free send.locator disk).2.1 = after at hroot ⊢
  generalize (area.free send.locator disk).2.2 = left
  have hentry := (after.isConverted_place hvideo).isEntry
  rw [← Area.place_of_root hroot]
  -- the output is removed if it is there, and if it is not there is nothing to sweep
  split
  · obtain ⟨hsame, hremoval⟩ :=
      Area.free_of_not_video (isVideo_convertedLocator send.locator) after left
    exact ⟨hsame, hremoval.swept hentry⟩
  · next hthere =>
    refine ⟨rfl, Disk.changesOnly_refl _ _, fun hpath content hread => ?_⟩
    rw [List.mem_singleton.mp hpath] at hread
    exact hthere ((Disk.isThere_iff hentry.namesFile).mpr (.inr ⟨content, hread⟩))

end Close

/-- Where a delivery of a video puts files of its own: beside the video, at the
converted file, and at the video where nobody else holds it. -/
def Depot.Visits (send : Send) (depot : Depot σ) (path : Disk.Path) : Prop :=
  path = depot.area.part send.locator ∨ path = depot.output send ∨
    path = depot.area.place send.locator ∧
      depot.area.holding? (depot.area.place send.locator) = none

theorem Depot.Visits.isEntry {path : Disk.Path} (h : depot.Visits send path)
    (hvideo : isVideo send.locator = true) : Disk.IsEntry depot.area.root path := by
  rcases h with hpart | houtput | ⟨hplace, -⟩
  · rw [hpart]
    exact (depot.area.isPart_part hvideo).isEntry
  · rw [houtput]
    exact (depot.area.isConverted_place hvideo).isEntry
  · rw [hplace]
    exact (depot.area.isStaged_place hvideo).isEntry

/-- What a delivery of a video comes to once it is known what saving the video
comes to: it answers what it should, the area is as it was, and no file is left
where it has been. -/
structure Handover.Closes (workshop : Workshop σ) (send : Send) (before : Depot σ) (saved : Result)
    (disk : Disk) (outcome : Except Error Unit × Depot σ) : Prop where
  answer : (outcome.1, outcome.2.inner) =
    workshop.outcome send (before.output send) saved disk before.inner
  alike : before.area.Alike outcome.2.area
  swept : ∃ paths, Disk.Swept paths before.disk outcome.2.disk ∧
    (saved.isOk = true → before.output send ∈ paths) ∧ ∀ path ∈ paths, before.Visits send path

/-- **A delivery of a video leaves the area as it was**, whatever saving the
video has come to. -/
theorem Handover.closes (hvideo : isVideo send.locator = true)
    (hconverter : ∀ staged output disk,
      Disk.ChangesOnly [output] disk (workshop.converter staged output disk).2)
    (hheld : ∀ holding, depot.area.holding? (depot.area.place send.locator) = some holding →
      0 < holding.holders)
    {saved : Result} {area : Area} {disk : Disk}
    (h : Journey send.locator depot.area depot.disk (.done saved) area disk) :
    Closes workshop send depot saved disk
      (run workshop (.ofSaved send saved) ⟨area, disk, depot.inner⟩) := by
  -- a failed save has swept up after itself; after any other the delivery lets both files go
  cases saved with
  | error e =>
    obtain ⟨halike, paths, hpaths, hswept⟩ := h.eq_failed
    rw [ofSaved, run_done]
    refine ⟨rfl, halike, paths, hswept, fun hok => ?_, fun path hpath => .inl (hpaths path hpath)⟩
    cases hok
  | ok staged =>
    have houtput : Depot.output send ⟨area, disk, depot.inner⟩ = depot.output send :=
      Area.place_of_root h.root_eq _
    have hentry := depot.area.isConverted_place hvideo
    rw [ofSaved, run_converting, houtput]
    generalize houtcome :
      workshop.outcome send (depot.output send) (.ok staged) disk depot.inner = outcome
    have hconverted := hconverter staged (depot.output send) disk
    generalize (workshop.converter staged (depot.output send) disk).2 = converted at hconverted ⊢
    obtain ⟨halike, paths, hchanges, hgone, hpaths⟩ := h.freed hvideo hheld hentry.isEntry
      (hentry.ne_part (depot.area.isPart_part hvideo)) hconverted
    obtain ⟨harea, hswept⟩ := Depot.closed_swept hvideo halike.root_eq outcome.2
    have hvisits : ∀ path ∈ paths ++ [depot.output send], depot.Visits send path := by
      intro path hpath
      rcases List.mem_append.mp hpath with hpath | hpath
      · exact (hpaths path hpath).imp_right .inr
      · exact .inr (.inl (List.mem_singleton.mp hpath))
    refine ⟨?_, ?_, paths ++ [depot.output send], ?_, by simp, hvisits⟩
    · rw [Depot.closed_inner, houtcome]
    · rw [harea]
      exact halike
    · exact hchanges.swept hgone hswept fun path hpath => (hvisits path hpath).isEntry hvideo

/-! ## §3. Deliveries in a staging area that is in use. -/

/-- No file is where a delivery goes, if none was in the directory at the
start. -/
theorem Depot.Visits.bare {fit : Disk.Path → Text.Bytes → Prop} {yard start : Yard} {inner : σ}
    {path : Disk.Path} (h : Depot.Visits send ⟨yard.area, yard.disk, inner⟩ path)
    (hkept : yard.Kept fit start) (hvideo : isVideo send.locator = true)
    (hbare : ∀ content, start.disk.read path ≠ .ok content) (content : Text.Bytes) :
    yard.disk.read path ≠ .ok content := by
  intro hread
  -- Whatever is there now is held or being written, for nothing was there at the start; the path
  -- is neither.
  have hfound := hkept.held_or_part (h.isEntry hvideo) hbare hread
  rcases h with hpart | houtput | ⟨hplace, hnone⟩
  · -- no call has begun the file beside the video, and no video is held there
    have hname := yard.area.isPart_part hvideo
    rw [hpart] at hfound
    rcases hfound with hheld | ⟨number, hbegun, hother⟩
    · obtain ⟨holding, hholding⟩ := Option.isSome_iff_exists.mp hheld
      exact absurd rfl ((hkept.held hholding).staged.ne_part hname)
    · exact absurd (hother.number_eq hname) (Nat.ne_of_lt hbegun)
  · have hname := yard.area.isConverted_place hvideo
    rw [houtput] at hfound
    rcases hfound with hheld | ⟨number, -, hother⟩
    · obtain ⟨holding, hholding⟩ := Option.isSome_iff_exists.mp hheld
      exact absurd rfl (hname.ne_staged (hkept.held hholding).staged)
    · exact absurd rfl (hname.ne_part hother)
  · rw [hplace] at hfound
    rcases hfound with hheld | ⟨number, -, hother⟩
    · cases hnone ▸ hheld
    · exact absurd rfl ((yard.area.isStaged_place hvideo).ne_part hother)

/-- Whether a delivery of a video leaves nothing behind, once it is known what
saving the video comes to. -/
structure Traceless (workshop : Workshop σ) (send : Send) (start : Disk) (before : Depot σ)
    (saved : Result) (disk : Disk) (outcome : Except Error Unit × Depot σ) : Prop where
  /-- The first stage that fails has the say, and the sink behind is asked once
  or not at all. -/
  answer : (outcome.1, outcome.2.inner) =
    workshop.outcome send (before.output send) saved disk before.inner
  /-- The staging area counts and holds what it did. -/
  alike : before.area.Alike outcome.2.area
  /-- Files that are held stay as they are. -/
  held {path : Disk.Path} {content : Text.Bytes} : (before.area.holding? path).isSome = true →
    (outcome.2.disk.read path = .ok content ↔ before.disk.read path = .ok content)
  /-- No file is new. -/
  file {place : Disk.Place} {content : Text.Bytes} :
    outcome.2.disk.node? place = some (.file content) →
      before.disk.node? place = some (.file content)
  /-- If no file was in the directory before it was used, the disk is as it
  was. -/
  same : (∀ path, Disk.IsEntry before.area.root path → ∀ content, start.read path ≠ .ok content) →
    ∀ place, outcome.2.disk.node? place = before.disk.node? place
  /-- If the video was saved, only a directory may still be where its converted
  file was. -/
  cleared : saved.isOk = true → outcome.2.disk.isThere (before.output send) = true →
    before.disk.isDirectory (before.output send) = true

/-- What a delivery leaves in an area in use. -/
theorem Handover.Closes.traceless {fit : Disk.Path → Text.Bytes → Prop} {yard start : Yard}
    {inner : σ} {saved : Result} {disk : Disk} {outcome : Except Error Unit × Depot σ}
    (h : Closes workshop send ⟨yard.area, yard.disk, inner⟩ saved disk outcome)
    (hkept : yard.Kept fit start) (hvideo : isVideo send.locator = true) :
    Traceless workshop send start.disk ⟨yard.area, yard.disk, inner⟩ saved disk outcome := by
  obtain ⟨paths, hswept, houtput, hvisits⟩ := h.swept
  have hentries : ∀ path ∈ paths, Disk.IsEntry yard.area.root path :=
    fun path hpath => (hvisits path hpath).isEntry hvideo
  refine ⟨h.answer, h.alike, fun {path content} hheld => ?_, hswept.file hentries,
    fun hbare => hswept.node?_eq hentries fun path hpath => ?_, fun hok hthere => ?_⟩
  · obtain ⟨holding, hholding⟩ := Option.isSome_iff_exists.mp hheld
    have hstaged := (hkept.held hholding).staged
    refine hswept.changes.read_iff hstaged.isEntry hentries fun hpath => ?_
    -- a held video is at none of the paths that the delivery visits: the third is visited only
    -- where nobody holds it
    rcases hvisits path hpath with hpart | houtput | ⟨hplace, hnone⟩
    · exact hstaged.ne_part (yard.area.isPart_part hvideo) hpart
    · exact (yard.area.isConverted_place hvideo).ne_staged hstaged houtput.symm
    · rw [hplace] at hholding
      cases hnone.symm.trans hholding
  · exact (hvisits path hpath).bare hkept hvideo (hbare path (hentries path hpath))
  · have hnames := (hentries _ (houtput hok)).namesFile
    rcases (Disk.isThere_iff hnames).mp hthere with hdirectory | ⟨content, hread⟩
    · exact hswept.changes.isDirectory_iff.mp hdirectory
    · exact absurd hread (hswept.gone (houtput hok) content)

/-- In every state that calls on videos bring a staging area to, whatever fails
but the deletion of files: a delivery of a video leaves nothing behind, however
saving, converting and handing on the video end.  Anything else is handed on
once, as it is. -/
theorem delivery_leaves_no_trace (root : Disk.Path) (budget : UInt64) (start : Disk)
    (events : List Staging.Event)
    (hcalm : (Yard.opening root budget start).Calm (fun _ _ => True) events)
    (workshop : Workshop σ)
    (hconverter : ∀ staged output disk,
      Disk.ChangesOnly [output] disk (workshop.converter staged output disk).2)
    (send : Send) (inner : σ) :
    let yard := (Yard.opening root budget start).after events
    let depot : Depot σ := ⟨yard.area, yard.disk, inner⟩
    (isVideo send.locator = true →
      (∃ saved area disk,
        Task.Solo workshop.fetch (.looking send.locator) yard.area yard.disk saved area disk ∧
        deliver workshop send depot =
          Handover.run workshop (.ofSaved send saved) ⟨area, disk, inner⟩) ∧
      ∀ saved area disk,
        Task.Solo workshop.fetch (.looking send.locator) yard.area yard.disk saved area disk →
        Traceless workshop send start depot saved disk
          (Handover.run workshop (.ofSaved send saved) ⟨area, disk, inner⟩)) ∧
    (isVideo send.locator = false → deliver workshop send depot =
      ((workshop.inner.send send yard.disk inner).1,
        { depot with inner := (workshop.inner.send send yard.disk inner).2 })) := by
  intro yard depot
  -- every held file has a holder and is on the disk, by the runs before this one
  have hkept := (Yard.kept_opening _ root budget start).after hcalm
  refine ⟨fun hvideo => ⟨deliver_of_video hvideo workshop depot, fun saved area disk hsolo => ?_⟩,
    fun hother => deliver_of_other hother workshop depot⟩
  have hcloses : Handover.Closes workshop send depot saved disk _ :=
    Handover.closes hvideo hconverter (fun holding hholding => (hkept.held hholding).holders)
      (Journey.solo hsolo hvideo .looking)
  exact hcloses.traceless hkept hvideo

/-- The copying converter writes at its output and nowhere else. -/
theorem changesOnly_copying (staged output : Disk.Path) (disk : Disk) :
    Disk.ChangesOnly [output] disk (Converter.copying staged output disk).2 := by
  unfold Converter.copying
  cases hcopy : (disk.read staged).bind (disk.write output) with
  | error fault => exact Disk.changesOnly_refl _ _
  | ok next =>
    cases hread : disk.read staged with
    | error fault =>
      rw [hread] at hcopy
      cases hcopy
    | ok content =>
      rw [hread] at hcopy
      exact Disk.changesOnly_write hcopy

/-- A video that somebody holds is delivered, and held as before. -/
theorem held_video_delivered :
    let events : List Staging.Event := [.begin (.stage wantedVideo.locator [1, 2]),
      .work 0 (.error .truncated) none, .work 0 (.error .truncated) none,
      .work 0 (.error .truncated) none]
    let yard := (Yard.opening areaRoot 1000 areaDisk).after events
    let outcome := deliver copyShop wantedVideo ⟨yard.area, yard.disk, []⟩
    (Yard.opening areaRoot 1000 areaDisk).Calm (fun _ _ => True) events ∧
      (yard.area.holding? (yard.area.place wantedVideo.locator)).isSome = true ∧
      outcome.1 = .ok () ∧ outcome.2.inner.length = 1 ∧ yard.area.Alike outcome.2.area ∧
      ∀ place, outcome.2.disk.node? place = yard.disk.node? place := by
  intro events yard outcome
  have hcalm : (Yard.opening areaRoot 1000 areaDisk).Calm (fun _ _ => True) events :=
    ⟨by decide +kernel, trivial, by decide +kernel, trivial, by decide +kernel, trivial,
      by decide +kernel, trivial, trivial⟩
  obtain ⟨hvideos, -⟩ := delivery_leaves_no_trace areaRoot 1000 areaDisk events hcalm copyShop
    changesOnly_copying wantedVideo []
  obtain ⟨⟨saved, area, disk, hsolo, hdelivers⟩, htraceless⟩ := hvideos (by decide +kernel)
  have hrest := htraceless saved area disk hsolo
  rw [← hdelivers] at hrest
  exact ⟨hcalm, by decide +kernel, by decide +kernel, by decide +kernel, hrest.alike,
    hrest.same fun path _ => areaDisk_bare path⟩

end BoardRelay.Delivery
