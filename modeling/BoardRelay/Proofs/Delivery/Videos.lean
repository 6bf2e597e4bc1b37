/-
  BoardRelay.Proofs.Delivery.Videos
  ────────────────────────────────
  Which files are taken for videos.  Three rules decide it, each by itself: the
  file kinds by the name of a file, in any case; the delivery by the end of its
  locator, which says whether the file is converted (`converts_iff`) or handed
  on as it is (`handsOn_iff`); the staging area by the same end, which says
  whether its size is given back (`givesBack_iff`).

      kinds      asciiLower name   ends in  .webm
      others     front ++ name     ends in  .webm

  They agree on names that spell the ending in small letters and do not owe the
  beginning of it to what is in front of them (`selected_iff_converted`).
-/
import BoardRelay.Proofs.Delivery.Traceless
import BoardRelay.Proofs.FileKinds

namespace BoardRelay.Delivery

open BoardRelay.Staging BoardRelay.Text

variable {σ : Type}

/-! ## §1. The two ways of a file. -/

/-- What the delivery of a file comes to that is staged and converted: its
converted form is handed on, and both are let go. -/
def Depot.viaConversion (workshop : Workshop σ) (send : Send) (depot : Depot σ) :
    Except Error Unit × Depot σ :=
  match depot.save workshop send.locator with
  | (.error e, depot) => (.error e, depot)
  | (.ok staged, depot) =>
    let answer := workshop.outcome send (depot.output send) (.ok staged) depot.disk depot.inner
    let converted := (workshop.converter staged (depot.output send) depot.disk).2
    (answer.1, Depot.closed send ⟨depot.area, converted, answer.2⟩)

/-- What it comes to when the file is handed on as it is. -/
def Depot.asItIs (workshop : Workshop σ) (send : Send) (depot : Depot σ) :
    Except Error Unit × Depot σ :=
  ((workshop.inner.send send depot.disk depot.inner).1,
    { depot with inner := (workshop.inner.send send depot.disk depot.inner).2 })

/-- Whether files of a locator are staged and converted, whatever the workshop and
the depot. -/
def Converts (locator : String) : Prop :=
  ∀ (σ : Type) (workshop : Workshop σ) (depot : Depot σ) (receivers : List User)
    (caption : String), deliver workshop ⟨receivers, locator, caption⟩ depot =
      depot.viaConversion workshop ⟨receivers, locator, caption⟩

/-- Whether they are handed on as they are. -/
def HandsOn (locator : String) : Prop :=
  ∀ (σ : Type) (workshop : Workshop σ) (depot : Depot σ) (receivers : List User)
    (caption : String), deliver workshop ⟨receivers, locator, caption⟩ depot =
      depot.asItIs workshop ⟨receivers, locator, caption⟩

/-- Whether the last holder who lets a file of a locator go gives the size back that
was taken for it. -/
def GivesBack (locator : String) : Prop :=
  ∀ (area : Area) (disk : Disk) (holding : Holding),
    area.holding? (area.place locator) = some holding → holding.holders ≤ 1 →
      (area.free locator disk).2.1.holding? (area.place locator) = none ∧
        (area.free locator disk).2.1.ledger = area.ledger.release holding.size

/-- Videos are staged and converted. -/
theorem converts_of_video {locator : String} (h : isVideo locator = true) : Converts locator := by
  intro σ workshop depot receivers caption
  rw [deliver, Handover.run_of_unfinished rfl, Handover.step, if_pos h, Depot.viaConversion]
  cases depot.save workshop locator with
  | mk saved after =>
    cases saved with
    | error e => exact Handover.run_done _ _ _
    | ok staged => exact Handover.run_converting staged

/-- All other files are handed on as they are. -/
theorem handsOn_of_other {locator : String} (h : isVideo locator = false) : HandsOn locator :=
  fun _ workshop depot _ _ => deliver_of_other h workshop depot

/-- A file that cannot be fetched is not staged. -/
theorem save_of_unfetched {fetch : String → Except Http.Error Text.Bytes} {locator : String}
    {area : Area} {e : Http.Error} (hnone : area.holding? (area.place locator) = none)
    (hfetch : fetch locator = .error e) (disk : Disk) :
    area.save fetch locator disk = (.error (.fetch locator (.http e)), area, disk) := by
  have hlooks : Task.step fetch none (.looking locator) area disk =
      (.fetching locator, area, disk) := by
    simp only [Task.step, Area.hold?, hnone, Option.map_none]
  have hfetches : Task.step fetch none (.fetching locator) area disk =
      (.done (.error (.fetch locator (.http e))), area, disk) := by
    simp only [Task.step, hfetch]
  rw [Area.save, Task.run_of_free rfl rfl, hlooks, Task.run_of_free rfl rfl, hfetches,
    Task.run_of_result rfl]

/-- No delivery goes both ways: where nothing can be fetched, one of them fails. -/
theorem Converts.not_handsOn {locator : String} (h : Converts locator) : ¬HandsOn locator := by
  intro hhands
  -- this workshop fetches nothing, so only a delivery that does not stage gets through
  let workshop : Workshop Unit := ⟨fun _ => .error .truncated, Converter.idle, Sink.log⟩
  let depot : Depot Unit := ⟨Area.empty areaRoot 1000, areaDisk, ()⟩
  have hsave : depot.save workshop locator =
      (.error (.fetch locator (.http .truncated)), depot) := by
    rw [Depot.save, save_of_unfetched rfl rfl]
  have hways := (h Unit workshop depot [] "").symm.trans (hhands Unit workshop depot [] "")
  rw [Depot.viaConversion, hsave] at hways
  cases congrArg Prod.fst hways

/-- **The end of its locator decides whether a file is converted.** -/
theorem converts_iff {locator : String} : Converts locator ↔ isVideo locator = true := by
  refine ⟨fun h => ?_, converts_of_video⟩
  by_contra hother
  exact h.not_handsOn (handsOn_of_other (Bool.eq_false_of_not_eq_true hother))

/-- **It decides as well whether the file is handed on as it is.** -/
theorem handsOn_iff {locator : String} : HandsOn locator ↔ isVideo locator = false := by
  refine ⟨fun h => ?_, handsOn_of_other⟩
  by_contra hvideo
  exact (converts_of_video (Bool.eq_true_of_not_eq_false hvideo)).not_handsOn h

/-- Nothing is given back for a file that is no video, though it may be held. -/
theorem givesBack_iff {locator : String} : GivesBack locator ↔ isVideo locator = true := by
  constructor
  · intro h
    by_contra hother
    -- an area that holds such a file all the same
    let held : Area := (Area.empty areaRoot 1000).withHolding
      ((Area.empty areaRoot 1000).place locator) ⟨1, 1⟩
    have hholding : held.holding? (held.place locator) = some ⟨1, 1⟩ :=
      Area.holding?_withHolding _ _ _
    obtain ⟨hgone, -⟩ := h held areaDisk ⟨1, 1⟩ hholding (Nat.le_refl 1)
    rw [(Area.free_of_not_video (Bool.eq_false_of_not_eq_true hother) held areaDisk).1,
      hholding] at hgone
    cases hgone
  · intro h area disk holding hholding hlast
    rw [(Area.free_of_last h rfl hholding hlast disk).1]
    exact ⟨Area.holding?_withoutHolding _ _, rfl⟩

/-! ## §2. Names and locators. -/

/-- The set that holds videos only. -/
def videosOnly : FileKinds :=
  ⟨false, false, true⟩

/-- Whether a name that ends like that of a video in some case does so in small
letters. -/
def SmallEnding (name : String) : Prop :=
  videoEnding <:+ asciiLower name.toList → videoEnding <:+ name.toList

/-- Whether a name is but the rest of the ending of a video, and the text in front
of it ends in the beginning. -/
def Borrows (front name : String) : Prop :=
  ∃ head, head ≠ [] ∧ head <:+ front.toList ∧ head ++ name.toList = videoEnding

instance (name : String) : Decidable (SmallEnding name) :=
  inferInstanceAs (Decidable (_ → _))

/-- The kinds take a file for a video when its name ends like one in any case. -/
theorem videosOnly_accepts_iff {name : String} :
    videosOnly.accepts name = true ↔ videoEnding <:+ asciiLower name.toList := by
  rw [FileKinds.accepts_iff]
  constructor
  · rintro ⟨kind, hkind, ending, hending, hsuffix⟩
    cases kind with
    | image => cases hkind
    | gif => cases hkind
    | webm => rwa [List.mem_singleton.mp hending] at hsuffix
  · exact fun hsuffix => ⟨.webm, rfl, videoEnding, List.mem_singleton_self _, hsuffix⟩

/-- A locator that ends like a video has a name that does, unless the name is
shorter than the ending. -/
theorem isVideo_append_iff {front name : String} (h : ¬Borrows front name) :
    isVideo (front ++ name) = true ↔ videoEnding <:+ name.toList := by
  rw [isVideo, List.isSuffixOf_iff_suffix, String.toList_append]
  constructor
  · intro hsuffix
    -- the ending lies within the name, or reaches into the front, which it may not borrow from
    rcases List.suffix_or_suffix_of_suffix hsuffix (List.suffix_append _ _) with hwhole | hpart
    · exact hwhole
    · obtain ⟨head, hhead⟩ := hpart
      by_cases hnil : head = []
      · rw [hnil, List.nil_append] at hhead
        exact ⟨[], hhead.symm⟩
      · rw [← hhead] at hsuffix
        obtain ⟨before, hbefore⟩ := hsuffix
        rw [← List.append_assoc, List.append_cancel_right_eq] at hbefore
        exact absurd ⟨head, hnil, ⟨before, hbefore⟩, hhead⟩ h
  · exact fun hsuffix => hsuffix.trans (List.suffix_append _ _)

/-- The kinds, the delivery and the staging area agree on what a video is. -/
theorem selected_iff_converted {front name : String} (hsmall : SmallEnding name)
    (hwhole : ¬Borrows front name) :
    (videosOnly.accepts name = true ↔ Converts (front ++ name)) ∧
      (videosOnly.accepts name = true ↔ GivesBack (front ++ name)) ∧
      (videosOnly.accepts name = false ↔ HandsOn (front ++ name)) := by
  have hagree : videosOnly.accepts name = isVideo (front ++ name) := by
    rw [Bool.eq_iff_iff, videosOnly_accepts_iff, isVideo_append_iff hwhole]
    refine ⟨hsmall, fun hending => ?_⟩
    obtain ⟨before, hbefore⟩ := hending
    exact ⟨asciiLower before, by rw [← hbefore, asciiLower, asciiLower, List.map_append]; rfl⟩
  rw [hagree, converts_iff, givesBack_iff, handsOn_iff]
  exact ⟨Iff.rfl, Iff.rfl, Iff.rfl⟩

/-- A name in capitals but for its ending, and what the ending asks of its
locator. -/
theorem small_ending_converted : SmallEnding "CLIP.webm" ∧ ¬Borrows "https://h.org/" "CLIP.webm" ∧
    videosOnly.accepts "CLIP.webm" = true ∧ Converts ("https://h.org/" ++ "CLIP.webm") ∧
    GivesBack ("https://h.org/" ++ "CLIP.webm") := by
  have hsmall : SmallEnding "CLIP.webm" := by decide
  have hwhole : ¬Borrows "https://h.org/" "CLIP.webm" := by
    rintro ⟨head, -, -, hhead⟩
    have hlength := congrArg List.length hhead
    simp [videoEnding] at hlength
  have haccepts : videosOnly.accepts "CLIP.webm" = true := by decide
  obtain ⟨hconverts, hgives, -⟩ := selected_iff_converted hsmall hwhole
  exact ⟨hsmall, hwhole, haccepts, hconverts.mp haccepts, hgives.mp haccepts⟩

/-- A file selected by an ending in capitals is handed on as it is, and its size is
never given back; a file is converted whose name, the last letters of its locator,
nobody takes for that of a video. -/
theorem selected_not_converted :
    (videosOnly.accepts "CLIP.WEBM" = true ∧ ¬Converts ("https://h.org/" ++ "CLIP.WEBM") ∧
      ¬GivesBack ("https://h.org/" ++ "CLIP.WEBM") ∧
      HandsOn ("https://h.org/" ++ "CLIP.WEBM")) ∧
    (videosOnly.accepts "webm" = false ∧ Converts ("https://h.org/clip." ++ "webm")) := by
  rw [converts_iff, converts_iff, givesBack_iff, handsOn_iff]
  decide

end BoardRelay.Delivery
