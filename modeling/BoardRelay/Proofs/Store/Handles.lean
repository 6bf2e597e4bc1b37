/-
  BoardRelay.Proofs.Store.Handles
  ────────────────────────────────
  Several handles on the file of one store.  Each writes the whole store from
  its own copy, so the file holds the copy of one of them, with that one's
  deeds.  While nobody writes from a copy that is out of date, it holds the
  effect of all deeds of all handles (`all_deeds_kept`); else a deed that went
  through can be lost (`advance_lost`).
-/
import BoardRelay.Proofs.Store.Peak
import BoardRelay.Proofs.Store.Rounds

namespace BoardRelay.Store

/-! ## §1. Handles. -/

/-- Handles on stores in files, and the disk that the files are on. -/
structure Handles (ι : Type) where
  of : ι → Saved
  disk : Disk

variable {ι : Type} {handles next : Handles ι} {who : ι} {deed : Deed} {answer : Answer}
  {path : Disk.Path} {store : Store}

/-- Whether the copy of a handle is what its file holds, if a deed has to write
it. -/
def Handles.UpToDate (who : ι) (deed : Deed) (handles : Handles ι) : Prop :=
  ∀ written, deed.target? (handles.of who).store = some written →
    Saved.load (handles.of who).path handles.disk = .ok (handles.of who)

/-- Whether a store is in the file of all handles, and no handle has a copy
whose cursor is beyond its own. -/
structure Handles.Share (path : Disk.Path) (store : Store) (handles : Handles ι) : Prop where
  load : Saved.load path handles.disk = .ok ⟨path, store⟩
  path_eq (who : ι) : (handles.of who).path = path
  cursor_le (who : ι) : (handles.of who).store.cursor ≤ store.cursor

/-- The cursor of a store never goes back. -/
theorem Deed.le_cursor_onStore (deed : Deed) (store : Store) :
    store.cursor ≤ (deed.onStore store).2.cursor := by
  rw [deed.cursor_onStore]
  cases deed.timestamp? with
  | none => exact UInt64.le_refl _
  | some timestamp =>
    by_cases hlater : store.cursor < timestamp
    · rw [Option.elim_some, word_max_of_lt hlater]
      exact UInt64.le_of_lt hlater
    · rw [Option.elim_some, word_max_of_not_lt hlater]
      exact UInt64.le_refl _

/-- What goes through and has nothing to write does nothing to the store in
the file either: a copy that is out of date has no later cursor. -/
theorem Handles.Share.idle (h : handles.Share path store) (hne : deed ≠ .reopen)
    (hidle : deed.target? (handles.of who).store = none)
    (hanswer : (deed.onStore (handles.of who).store).1 = .ok answer) :
    deed.onStore store = (.ok answer, store) := by
  cases deed with
  | reopen => exact absurd rfl hne
  | update asked =>
    rcases asked.granted_or_refused (handles.of who).store with
      ⟨reply, next, happly, -⟩ | ⟨e, happly⟩
    · simp [Deed.target?, happly] at hidle
    · simp [Deed.onStore, happly, Except.map] at hanswer
  -- the copy's cursor is no further than the store's, so neither of them moves
  | advance timestamp =>
    have hown : ¬ (handles.of who).store.cursor < timestamp := by
      intro hlater
      simp [Deed.target?, Store.advance, hlater] at hidle
    have hstore : ¬ store.cursor < timestamp := by
      rw [UInt64.not_lt] at hown ⊢
      exact UInt64.le_trans hown (h.cursor_le who)
    simp only [Deed.onStore, Store.advance, if_neg hown] at hanswer
    cases hanswer
    simp only [Deed.onStore, Store.advance, if_neg hstore]

/-! ## §2. One deed. -/

/-- What a deed of a handle that goes through does: it opens the file anew, or
has nothing to write, or writes what becomes of its own copy, whatever the file
held before. -/
inductive Handles.Effect (who : ι) (handles next : Handles ι) : Deed → Answer → Prop
  | reopened : Saved.load (handles.of who).path handles.disk = .ok (next.of who) →
    next.disk = handles.disk → Effect who handles next .reopen .opened
  | idle {deed : Deed} {answer : Answer} : deed ≠ .reopen →
    deed.target? (handles.of who).store = none →
    (deed.onStore (handles.of who).store).1 = .ok answer →
    next.of who = handles.of who → next.disk = handles.disk → Effect who handles next deed answer
  | wrote {deed : Deed} {answer : Answer} {written : Store} : deed ≠ .reopen →
    deed.target? (handles.of who).store = some written →
    (deed.onStore (handles.of who).store).1 = .ok answer →
    next.of who = ⟨(handles.of who).path, written⟩ →
    Saved.load (handles.of who).path next.disk = .ok (next.of who) →
    Effect who handles next deed answer

/-- What its copy becomes but by reopening is what becomes of a plain store. -/
theorem Handles.Effect.store_eq (h : handles.Effect who next deed answer)
    (hne : deed ≠ .reopen) :
    (next.of who).store = (deed.onStore (handles.of who).store).2 := by
  rw [deed.onStore_snd]
  cases h with
  | reopened hload hdisk => exact absurd rfl hne
  | idle hreopen hidle hanswer hof hdisk => rw [hof, hidle, Option.getD_none]
  | wrote hreopen hwritten hanswer hof hload => rw [hof, hwritten, Option.getD_some]

/-- No deed leads a handle to another file. -/
theorem Handles.Effect.path_eq (h : handles.Effect who next deed answer) :
    (next.of who).path = (handles.of who).path := by
  cases h with
  | reopened hload hdisk =>
    rcases load_cases hload with ⟨-, hsaved⟩ | ⟨content, store, -, -, hsaved⟩
    · rw [hsaved]
    · rw [hsaved]
  | idle hreopen hidle hanswer hof hdisk => rw [hof]
  | wrote hreopen hwritten hanswer hof hload => rw [hof]

section Step

variable [DecidableEq ι]

/-- A deed by one of the handles. -/
def Handles.handle (who : ι) (deed : Deed) (handles : Handles ι) :
    Except Error Answer × Handles ι :=
  let (answer, saved, disk) := deed.run (handles.of who) handles.disk
  (answer, ⟨Function.update handles.of who saved, disk⟩)

/-- A deed is done by one handle, and the others keep their copies. -/
theorem handle_eq {answer : Except Error Answer}
    (h : handles.handle who deed = (answer, next)) :
    deed.run (handles.of who) handles.disk = (answer, next.of who, next.disk) ∧
      ∀ other, other ≠ who → next.of other = handles.of other := by
  unfold Handles.handle at h
  cases hrun : deed.run (handles.of who) handles.disk with
  | mk answer' rest =>
    obtain ⟨saved, disk⟩ := rest
    rw [hrun] at h
    cases h
    refine ⟨?_, fun other hother => Function.update_of_ne hother _ _⟩
    simp only [Function.update_self]

/-- **A deed that goes through** has one of the three effects. -/
theorem handle_effect (hhandle : handles.handle who deed = (.ok answer, next)) :
    handles.Effect who next deed answer := by
  obtain ⟨hrun, -⟩ := handle_eq hhandle
  by_cases hreopen : deed = .reopen
  · subst hreopen
    cases hload : Saved.load (handles.of who).path handles.disk with
    | error e => simp [Deed.run, hload] at hrun
    | ok again =>
      simp only [Deed.run, hload, Prod.mk.injEq, Except.ok.injEq] at hrun
      obtain ⟨rfl, hof, hdisk⟩ := hrun
      exact .reopened (hof ▸ hload) hdisk.symm
  · -- every other deed writes its own copy or nothing, and never looks at the file
    rw [Deed.run_of_ne_reopen hreopen] at hrun
    cases hwritten : deed.target? (handles.of who).store with
    | none =>
      rw [hwritten] at hrun
      simp only [Prod.mk.injEq] at hrun
      obtain ⟨hanswer, hof, hdisk⟩ := hrun
      exact .idle hreopen hwritten hanswer hof.symm hdisk.symm
    | some written =>
      rw [hwritten] at hrun
      cases hsave : save (handles.of who).path written handles.disk with
      | mk after result =>
        cases result with
        | error fault => simp [hsave] at hrun
        | ok _ =>
          simp only [hsave, Prod.mk.injEq] at hrun
          obtain ⟨hanswer, hof, hdisk⟩ := hrun
          refine .wrote hreopen hwritten hanswer hof.symm ?_
          rw [← hof, ← hdisk]
          exact (mirrors_of_save hsave).load

/-- A handle that takes on the store in the file, or one that has become of
it, keeps what all handles share. -/
theorem Handles.Share.turn (h : handles.Share path store)
    (hothers : ∀ other, other ≠ who → next.of other = handles.of other) {after : Store}
    (hload : Saved.load path next.disk = .ok ⟨path, after⟩)
    (hle : store.cursor ≤ after.cursor) (hpath : (next.of who).path = path)
    (hcursor : (next.of who).store.cursor ≤ after.cursor) : next.Share path after := by
  refine ⟨hload, fun other => ?_, fun other => ?_⟩
  · -- the path and the cursor of every handle, the one that turned apart
    by_cases hother : other = who
    · rw [hother, hpath]
    · rw [hothers other hother, h.path_eq]
  · by_cases hother : other = who
    · rw [hother]
      exact hcursor
    · rw [hothers other hother]
      exact UInt64.le_trans (h.cursor_le other) hle

/-- One deed that goes through does to the store in the file what it does to a
plain store, if no copy that is out of date is written. -/
theorem Handles.Share.handle (h : handles.Share path store)
    (hhandle : handles.handle who deed = (.ok answer, next))
    (hcurrent : handles.UpToDate who deed) : next.Share path (deed.onStore store).2 := by
  obtain ⟨-, hothers⟩ := handle_eq hhandle
  have hpath := h.path_eq who
  have heffect := handle_effect hhandle
  have hstore := heffect.store_eq
  cases heffect with
  | reopened hload hdisk =>
    rw [hpath, h.load] at hload
    refine h.turn hothers ?_ (UInt64.le_refl _) ?_ ?_
    · rw [hdisk]
      exact h.load
    · rw [← Except.ok.inj hload]
    · rw [← Except.ok.inj hload]
      exact UInt64.le_refl _
  | idle hreopen hidle hanswer hof hdisk =>
    rw [h.idle hreopen hidle hanswer]
    refine h.turn hothers ?_ (UInt64.le_refl _) ?_ ?_
    · rw [hdisk]
      exact h.load
    · rw [hof, hpath]
    · rw [hof]
      exact h.cursor_le who
  | wrote hreopen hwritten hanswer hof hload =>
    -- the copy that is written is the store in the file
    have hcopy := hcurrent _ hwritten
    rw [hpath, h.load] at hcopy
    have hbecome := hstore hreopen
    rw [← Except.ok.inj hcopy] at hbecome
    rw [hpath] at hload hof
    refine h.turn hothers ?_ (deed.le_cursor_onStore store) ?_ ?_
    · rw [hload, ← hbecome, hof]
    · rw [hof]
    · rw [hbecome]
      exact UInt64.le_refl _

/-! ## §3. Every order of deeds. -/

/-- What becomes of handles by deeds in any order that all go through, each of
them allowed where it is done. -/
inductive Handles.Runs (allowed : ι → Deed → Handles ι → Prop) :
    Handles ι → List (ι × Deed) → Handles ι → Prop
  | nil (handles : Handles ι) : Runs allowed handles [] handles
  | cons {first middle last : Handles ι} {who : ι} {deed : Deed} {answer : Answer}
    {calls : List (ι × Deed)} : first.handle who deed = (.ok answer, middle) →
    allowed who deed first → Runs allowed middle calls last →
    Runs allowed first ((who, deed) :: calls) last

variable {first last : Handles ι} {calls : List (ι × Deed)}
  {allowed : ι → Deed → Handles ι → Prop}

/-- The deeds of one handle. -/
def deedsOf (who : ι) (calls : List (ι × Deed)) : List Deed :=
  (calls.filter fun call => call.1 = who).map (·.2)

/-- If nobody writes a copy that is out of date, the store in the file takes
every deed. -/
theorem Handles.Runs.share (hruns : first.Runs UpToDate calls last) {store : Store}
    (h : first.Share path store) : last.Share path (store.after (calls.map (·.2))) := by
  induction hruns generalizing store with
  | nil handles => exact h
  | cons hhandle hcurrent hrest ih => exact ih (h.handle hhandle hcurrent)

/-- The file holds the copy of one of the handles. -/
theorem Handles.Runs.load_copy (hruns : first.Runs allowed calls last)
    (hpath : ∀ who, (first.of who).path = path)
    (h : ∃ who, Saved.load path first.disk = .ok (first.of who)) :
    ∃ who, Saved.load path last.disk = .ok (last.of who) := by
  -- Induction on the run: the copy that the file holds is the old writer's until another handle
  -- writes.
  induction hruns with
  | nil handles => exact h
  | @cons first middle last who deed answer calls hhandle hallowed hrest ih =>
    obtain ⟨-, hothers⟩ := handle_eq hhandle
    obtain ⟨writer, hwriter⟩ := h
    have heffect := handle_effect hhandle
    refine ih (fun other => ?_) ?_
    · by_cases hother : other = who
      · rw [hother]
        exact (heffect.path_eq).trans (hpath who)
      · rw [hothers other hother]
        exact hpath other
    · cases heffect with
      | reopened hload hdisk =>
        rw [hpath who] at hload
        exact ⟨who, by rw [hdisk, hload]⟩
      | idle hreopen hidle hanswer hof hdisk =>
        refine ⟨writer, ?_⟩
        by_cases hsame : writer = who
        · rw [hdisk, hwriter, hsame, hof]
        · rw [hdisk, hwriter, hothers writer hsame]
      | wrote hreopen hwritten hanswer hof hload =>
        rw [hpath who] at hload
        exact ⟨who, hload⟩

/-- A handle that is not opened anew has its own deeds in its copy, and no
others. -/
theorem Handles.Runs.own_deeds (hruns : first.Runs allowed calls last) {who : ι}
    (hnever : (who, Deed.reopen) ∉ calls) :
    (last.of who).store = (first.of who).store.after (deedsOf who calls) := by
  -- The deeds of others change the file, which this copy never looks at.
  induction hruns with
  | nil handles => rfl
  | @cons first middle last other deed answer calls hhandle hallowed hrest ih =>
    obtain ⟨-, hothers⟩ := handle_eq hhandle
    rw [List.mem_cons, not_or] at hnever
    rw [ih hnever.2]
    by_cases hother : other = who
    · subst hother
      have hne : deed ≠ .reopen := by
        rintro rfl
        exact hnever.1 rfl
      rw [(handle_effect hhandle).store_eq hne, deedsOf, deedsOf,
        List.filter_cons_of_pos (by simp), List.map_cons]
      rfl
    · rw [hothers who (Ne.symm hother), deedsOf, deedsOf,
        List.filter_cons_of_neg (by simpa using hother)]

/-- By any deeds the cursor comes to the greatest of their timestamps. -/
theorem cursor_after (deeds : List Deed) (store : Store) :
    (store.after deeds).cursor = (deeds.filterMap Deed.timestamp?).foldl max store.cursor := by
  -- each deed folds its own timestamp in, if it has one
  induction deeds generalizing store with
  | nil => rfl
  | cons deed deeds ih =>
    show ((deed.onStore store).2.after deeds).cursor = _
    rw [ih, deed.cursor_onStore]
    cases htimestamp : deed.timestamp? with
    | none => rw [List.filterMap_cons_none htimestamp, Option.elim_none]
    | some timestamp =>
      rw [List.filterMap_cons_some htimestamp, List.foldl_cons, Option.elim_some]

/-- Handles that were opened on one file, in any order of deeds that go through:
the file holds the copy of one of them, and a copy that is not opened anew has
all deeds of its own handle and no others.  If nobody writes a copy that is out
of date, no deed is lost: the file comes to hold what becomes of a plain store
by all of them in turn, with the greatest timestamp that any of them moved the
cursor to. -/
theorem all_deeds_kept [Nonempty ι] {opened : Saved}
    (hopened : Saved.load path first.disk = .ok opened) (hof : ∀ who, first.of who = opened)
    (hruns : first.Runs allowed calls last) :
    (∃ who, Saved.load path last.disk = .ok (last.of who)) ∧
    (∀ who, (who, .reopen) ∉ calls →
      (last.of who).store = opened.store.after (deedsOf who calls)) ∧
    (first.Runs Handles.UpToDate calls last →
      Saved.load path last.disk = .ok ⟨path, opened.store.after (calls.map (·.2))⟩ ∧
      (opened.store.after (calls.map (·.2))).cursor =
        ((calls.map (·.2)).filterMap Deed.timestamp?).foldl max opened.store.cursor) := by
  -- opening a file, or finding none, does not change the path
  have hpath : opened.path = path := by
    rcases load_cases hopened with ⟨-, rfl⟩ | ⟨-, -, -, -, rfl⟩
    · rfl
    · rfl
  have hpaths : ∀ who, (first.of who).path = path := fun who => by rw [hof who, hpath]
  refine ⟨hruns.load_copy hpaths ?_, fun who hnever => ?_, fun hcurrent => ?_⟩
  · obtain ⟨who⟩ := ‹Nonempty ι›
    exact ⟨who, by rw [hopened, hof who]⟩
  · rw [hruns.own_deeds hnever, hof who]
  · -- all copies are the one that was opened
    have hshare : first.Share path opened.store := by
      refine ⟨?_, hpaths, fun who => ?_⟩
      · rw [hopened, ← hpath]
      · rw [hof who]
        exact UInt64.le_refl _
    exact ⟨(hcurrent.share hshare).load, cursor_after _ _⟩

/-- A handle's deed is the deed on its own copy. -/
theorem handle_of_run {answer : Except Error Answer} {saved : Saved} {disk : Disk}
    (h : deed.run (handles.of who) handles.disk = (answer, saved, disk)) :
    handles.handle who deed = (answer, ⟨Function.update handles.of who saved, disk⟩) := by
  rw [Handles.handle, h]

end Step

/-- Two handles that were opened where there was no file. -/
def twoHandles : Handles Bool :=
  ⟨fun _ => ⟨shelfPath, empty⟩, Disk.empty⟩

/-- An empty store whose cursor one of them has moved. -/
def advanced : Store :=
  { empty with cursor := 10 }

/-- Where there is no file, both are opened on the empty store. -/
theorem load_twoHandles : Saved.load shelfPath twoHandles.disk = .ok ⟨shelfPath, empty⟩ := by
  rw [Saved.load, twoHandles, holds_empty.read]
  rfl

/-- The first of them can move the cursor, for nothing is in its way. -/
theorem exists_advance_twoHandles : ∃ after, save shelfPath advanced Disk.empty = (after, .ok ()) ∧
    twoHandles.handle true (.advance 10) =
      (.ok (.moved true),
        ⟨Function.update twoHandles.of true ⟨shelfPath, advanced⟩, after⟩) := by
  obtain ⟨after, hsave⟩ := holds_empty.save_of_not_blocked rfl not_blocked_empty advanced
  exact ⟨after, hsave, handle_of_run (Deed.run_of_save rfl hsave)⟩

/-- One handle moves the cursor, and the other registers a chat after it has
opened the file anew. -/
theorem both_deeds_kept : ∃ last,
    twoHandles.Runs Handles.UpToDate
      [(true, .advance 10), (false, .reopen), (false, .update (.register 7))] last ∧
      Saved.load shelfPath last.disk = .ok ⟨shelfPath, { shelf with cursor := 10 }⟩ := by
  obtain ⟨after, hsave, hadvance⟩ := exists_advance_twoHandles
  have hload : Saved.load shelfPath after = .ok ⟨shelfPath, advanced⟩ :=
    (mirrors_of_save hsave).load
  have hreopen : Deed.reopen.run ⟨shelfPath, empty⟩ after =
      (.ok .opened, ⟨shelfPath, advanced⟩, after) := by
    simp only [Deed.run, hload]
  obtain ⟨last, hlast⟩ := save_again hsave { shelf with cursor := 10 }
  have hregister : (Deed.update (.register 7)).run ⟨shelfPath, advanced⟩ after =
      (.ok (.reply (.user ⟨1, 7⟩)), ⟨shelfPath, { shelf with cursor := 10 }⟩, last) :=
    Deed.run_of_save rfl hlast
  -- the second copy is up to date when it is written, because it was opened anew
  have hruns : twoHandles.Runs Handles.UpToDate
      [(true, .advance 10), (false, .reopen), (false, .update (.register 7))] _ :=
    .cons hadvance (fun _ _ => load_twoHandles)
      (.cons (handle_of_run hreopen) (fun _ htarget => by cases htarget)
        (.cons (handle_of_run hregister) (fun _ _ => hload) (.nil _)))
  have hafter : empty.after ([(true, .advance 10), (false, .reopen),
      (false, .update (.register 7))].map (·.2)) = { shelf with cursor := 10 } := by
    decide +kernel
  refine ⟨_, hruns, ?_⟩
  rw [((all_deeds_kept load_twoHandles (fun _ => rfl) hruns).2.2 hruns).1]
  exact congrArg (fun store => Except.ok (Saved.mk shelfPath store)) hafter

/-- Without that the other writes the copy that it opened, and the cursor is
back where it was. -/
theorem advance_lost : ∃ middle last,
    (∀ who, twoHandles.of who = ⟨shelfPath, empty⟩) ∧
      Saved.load shelfPath twoHandles.disk = .ok ⟨shelfPath, empty⟩ ∧
      twoHandles.handle true (.advance 10) = (.ok (.moved true), middle) ∧
      middle.handle false (.update (.register 7)) = (.ok (.reply (.user ⟨1, 7⟩)), last) ∧
      Saved.load shelfPath last.disk = .ok ⟨shelfPath, shelf⟩ ∧ shelf.cursor = 0 := by
  obtain ⟨after, hsave, hadvance⟩ := exists_advance_twoHandles
  obtain ⟨last, hlast⟩ := save_again hsave shelf
  have hregister : (Deed.update (.register 7)).run ⟨shelfPath, empty⟩ after =
      (.ok (.reply (.user ⟨1, 7⟩)), ⟨shelfPath, shelf⟩, last) :=
    Deed.run_of_save rfl hlast
  -- the copy of the second handle is still the empty store, and that is what it writes
  exact ⟨_, _, fun _ => rfl, load_twoHandles, hadvance, handle_of_run hregister,
    (mirrors_of_save hlast).load, rfl⟩

end BoardRelay.Store
