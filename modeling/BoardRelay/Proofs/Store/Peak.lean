/-
  BoardRelay.Proofs.Store.Peak
  ────────────────────────────────
  How far the cursor of a store has come.  Whether the store is in memory or
  in a file, whichever writes fail or are broken off and however often the
  file is opened anew, it has come to the greatest of the timestamps that it
  was moved to (`cursor_eq_peak`).  A file that comes into view only by a
  write that fails has a cursor of its own (`cursor_from_elsewhere`).
-/
import BoardRelay.Proofs.Store.Interrupted
import BoardRelay.Proofs.Store.WellFormed

namespace BoardRelay.Store

/-! ## §1. Deeds and the cursor. -/

/-- Registering a chat leaves the cursor. -/
theorem cursor_register (chat : Int64) (store : Store) :
    (store.register chat).2.cursor = store.cursor := by
  unfold register
  cases store.userOf? chat <;> rfl

theorem cursor_remove (chat id : Int64) (store : Store) :
    (store.remove chat id).2.cursor = store.cursor := by
  unfold remove
  cases store.userOf? chat with
  | none => rfl
  | some user =>
    dsimp only
    split <;> rfl

/-- No change moves the cursor. -/
theorem Change.Granted.cursor_eq {asked : Change} {store next : Store} {reply : Reply}
    (h : asked.Granted store reply next) : next.cursor = store.cursor := by
  -- whatever is granted writes users, subscriptions and links only
  cases h with
  | register chat => exact cursor_register chat store
  | add chat wanted => exact cursor_register chat store
  | share _ hshare =>
    obtain ⟨-, -, rfl⟩ := share_eq_ok hshare
    rfl
  | join hjoin =>
    obtain ⟨-, rfl⟩ := join_eq_ok hjoin
    unfold linkOnce
    split <;> exact cursor_register _ store
  | unshare hunshare =>
    obtain ⟨-, rfl⟩ := unshare_eq_ok hunshare
    rfl
  | remove chat id => exact cursor_remove chat id store

theorem word_max_of_lt {a b : UInt64} (h : a < b) : max a b = b :=
  if_pos (UInt64.le_of_lt h)

/-- A word that is not exceeded stays the largest. -/
theorem word_max_of_not_lt {a b : UInt64} (h : ¬ a < b) : max a b = a := by
  show (if a ≤ b then b else a) = a
  by_cases hle : a ≤ b
  · rw [if_pos hle]
    exact UInt64.le_antisymm (UInt64.not_lt.mp h) hle
  · exact if_neg hle

/-- The timestamp that a deed would move the cursor to. -/
def Deed.timestamp? : Deed → Option UInt64
  | .advance timestamp => some timestamp
  | _ => none

/-- Deeds move the cursor up to their timestamp, and nothing else does. -/
theorem Deed.cursor_onStore (deed : Deed) (store : Store) :
    (deed.onStore store).2.cursor = deed.timestamp?.elim store.cursor (max store.cursor) := by
  cases deed with
  | update asked =>
    rcases asked.granted_or_refused store with ⟨reply, next, happly, hgranted⟩ | ⟨e, happly⟩
    · simp only [onStore, happly, timestamp?, Option.elim]
      exact hgranted.cursor_eq
    · simp only [onStore, happly, timestamp?, Option.elim]
  | advance timestamp =>
    show (store.advance timestamp).2.cursor = max store.cursor timestamp
    unfold Store.advance
    -- moving to an earlier timestamp is not done, and the larger of the two is the cursor
    by_cases hlater : store.cursor < timestamp
    · rw [if_pos hlater]
      exact (word_max_of_lt hlater).symm
    · rw [if_neg hlater]
      exact (word_max_of_not_lt hlater).symm
  | reopen => rfl

/-! ## §2. What happens to a store. -/

/-- A store as it is kept: in memory only, or in a file as well. -/
inductive Backend where
  | memory (store : Store)
  | file (saved : Saved) (disk : Disk)

/-- The store in memory. -/
def Backend.store : Backend → Store
  | .memory store => store
  | .file saved _ => saved.store

/-- Whether the file at a path holds something that is no store. -/
def Spoilt (path : Disk.Path) (disk : Disk) : Prop :=
  ∃ content, disk.read path = .ok content ∧ Store.read? content = none

/-- How a deed is answered, and what becomes of the store. -/
inductive Backend.Does (deed : Deed) : Backend → Except Error Answer → Backend → Prop
  | inMemory (store : Store) :
    Does deed (.memory store) (deed.inMemory store).1 (.memory (deed.inMemory store).2)
  | inFile (saved : Saved) (disk : Disk) :
    Does deed (.file saved disk) (deed.run saved disk).1
      (.file (deed.run saved disk).2.1 (deed.run saved disk).2.2)
  /-- Its write is broken off, for whatever reason.  A file that is beside
  itself is left alone by that or spoilt. -/
  | brokenOff {saved : Saved} {disk after : Disk} {next : Store} (fault : Disk.Fault) :
    deed.target? saved.store = some next → Cut saved.path next.write disk after →
    (BesideItself saved.path →
      Disk.KeepsFile (disk.goal saved.path) disk after ∨ Spoilt saved.path after) →
    Does deed (.file saved disk) (.error (deed.refusal fault)) (.file saved after)

/-- How a deed runs on a store in a file is one of the ways that it can go. -/
theorem Backend.Does.of_run {deed : Deed} {saved next : Saved} {disk after : Disk}
    {answer : Except Error Answer} (h : deed.run saved disk = (answer, next, after)) :
    (Backend.file saved disk).Does deed answer (.file next after) := by
  have hdoes : (Backend.file saved disk).Does deed _ _ := .inFile saved disk
  rwa [h] at hdoes

/-- A deed and its answer. -/
abbrev Call := Deed × Except Error Answer

/-- What becomes of a store by one call after the other. -/
inductive Backend.Runs : Backend → List Call → Backend → Prop
  | nil (backend : Backend) : Runs backend [] backend
  | cons {first middle last : Backend} {deed : Deed} {answer : Except Error Answer}
    {calls : List Call} : first.Does deed answer middle → Runs middle calls last →
    Runs first ((deed, answer) :: calls) last

/-- The timestamp that a call has moved the cursor to, unless it failed. -/
def Call.raised? : Call → Option UInt64
  | (deed, .ok _) => deed.timestamp?
  | (_, .error _) => none

/-- The greatest of a first cursor and the timestamps of all calls that did not
fail. -/
def peak (first : UInt64) (calls : List Call) : UInt64 :=
  (calls.filterMap Call.raised?).foldl max first

/-! ## §3. File and memory. -/

/-- Whether no file would be found at a path, were all its directories there. -/
def Vacant (path : Disk.Path) (disk : Disk) : Prop :=
  path.ending = .plain → disk.fileAt? (disk.goal path) = none

/-- Whether nothing but the store in memory can be read from its file. -/
def Saved.Backed (saved : Saved) (disk : Disk) : Prop :=
  (∃ content, disk.read saved.path = .ok content ∧
    ∀ store, Store.read? content = some store → store = saved.store) ∨
  saved.store = empty ∧ Vacant saved.path disk

/-- Whether a store has been opened from its file, if it has one, and a file
that was not found is not there either. -/
def Backend.Opened : Backend → Prop
  | .memory _ => True
  | .file saved disk => Saved.load saved.path disk = .ok saved ∧
      (disk.read saved.path = .error .notFound → Vacant saved.path disk)

/-- What holds of a store in a file at any time. -/
def Backend.Sound : Backend → Prop
  | .memory _ => True
  | .file saved disk => saved.Backed disk

variable {saved : Saved} {disk after : Disk}

/-- What keeps the file keeps what can be read of it. -/
theorem Saved.Backed.keep (h : saved.Backed disk)
    (hkept : Disk.KeepsFile (disk.goal saved.path) disk after) : saved.Backed after := by
  rcases h with ⟨content, hread, honly⟩ | ⟨hempty, hvacant⟩
  · exact .inl ⟨content, hkept.read hread, honly⟩
  · refine .inr ⟨hempty, fun hplain => ?_⟩
    rw [hkept.toKeepsDirectories.goal, hkept.file]
    exact hvacant hplain

/-- A save that fails leaves what can be read. -/
theorem Saved.Backed.refused (h : saved.Backed disk) {next : Store} {fault : Disk.Fault}
    (hsave : save saved.path next disk = (after, .error fault)) : saved.Backed after := by
  by_cases hplain : saved.path.ending = .plain
  · exact h.keep (keepsFile_of_save hplain hsave)
  · rcases h with ⟨content, hread, -⟩ | ⟨hempty, -⟩
    · exact absurd (Disk.read_eq_ok_iff.mp hread).choose_spec.2.2 hplain
    · exact .inr ⟨hempty, fun h => absurd h hplain⟩

/-- A file that was saved holds the store and nothing else. -/
theorem backed_of_save {path : Disk.Path} {next : Store}
    (hsave : save path next disk = (after, .ok ())) : Saved.Backed ⟨path, next⟩ after := by
  refine .inl ⟨next.write, read_save hsave, fun store hstore => ?_⟩
  rw [read?_write] at hstore
  exact (Option.some.inj hstore).symm

/-- What is opened was read from the file, or is empty and there is none. -/
theorem load_cases {path : Disk.Path} {again : Saved} (h : Saved.load path disk = .ok again) :
    (disk.read path = .error .notFound ∧ again = ⟨path, empty⟩) ∨
      ∃ content store, disk.read path = .ok content ∧ Store.read? content = some store ∧
        again = ⟨path, store⟩ := by
  unfold Saved.load at h
  -- a missing file, a file that cannot be read, and a file that has to make sense
  split at h
  · rename_i hread
    cases h
    exact .inl ⟨hread, rfl⟩
  · cases h
  · rename_i content hread
    cases hstore : Store.read? content with
    | none => simp [hstore] at h
    | some store =>
      rw [hstore] at h
      cases h
      exact .inr ⟨content, store, hread, hstore, rfl⟩

/-- Opening the file again gives the store in memory, if it gives one. -/
theorem Saved.Backed.load (h : saved.Backed disk) {again : Saved}
    (hload : Saved.load saved.path disk = .ok again) : again = saved := by
  rcases load_cases hload with ⟨hmissing, rfl⟩ | ⟨content, store, hread, hstore, rfl⟩
  · rcases h with ⟨content, hread, -⟩ | ⟨hempty, -⟩
    · rw [hmissing] at hread
      cases hread
    · rw [← hempty]
  · rcases h with ⟨content', hread', honly⟩ | ⟨-, hvacant⟩
    · rw [hread] at hread'
      cases hread'
      rw [honly store hstore]
    · -- what is read would stand where no file is
      obtain ⟨-, -, -, hplain⟩ := Disk.read_eq_ok_iff.mp hread
      have hfile := Disk.fileAt?_of_read hread
      rw [hvacant hplain] at hfile
      cases hfile

/-- A store that was opened is the one in its file, or the file is vacant. -/
theorem Backend.Opened.sound {backend : Backend} (h : backend.Opened) : backend.Sound := by
  cases backend with
  | memory store => trivial
  | file saved disk =>
    obtain ⟨hload, hvacant⟩ := h
    rcases load_cases hload with ⟨hmissing, hsaved⟩ | ⟨content, store, hread, hstore, hsaved⟩
    · refine .inr ⟨?_, hvacant hmissing⟩
      rw [hsaved]
    · refine .inl ⟨content, hread, fun other hother => ?_⟩
      rw [hstore] at hother
      cases hother
      rw [hsaved]

/-! ## §4. One call. -/

/-- How a deed is answered, and what becomes of the store in memory. -/
inductive Backend.Outcome (deed : Deed) (backend : Backend) : Except Error Answer → Store → Prop
  /-- It does what it does to a plain store. -/
  | done : Outcome deed backend (deed.onStore backend.store).1 (deed.onStore backend.store).2
  /-- It has something to write and cannot. -/
  | refused {saved : Saved} {disk : Disk} {next : Store} (fault : Disk.Fault) :
    backend = .file saved disk → deed.target? backend.store = some next →
    Outcome deed backend (.error (deed.refusal fault)) backend.store
  /-- It finds no store to open. -/
  | unopened (e : Error) : deed = .reopen → Outcome deed backend (.error e) backend.store

/-- A deed that was done has left what becomes of a plain store. -/
theorem Backend.Outcome.of_store {deed : Deed} {backend : Backend} {store : Store}
    (h : store = (deed.onStore backend.store).2) :
    backend.Outcome deed (deed.onStore backend.store).1 store :=
  h ▸ .done

/-- A deed on a store in a file leaves nothing else there, whether it is
refused or not. -/
theorem Saved.Backed.outcome (h : saved.Backed disk) (deed : Deed) :
    (Backend.file (deed.run saved disk).2.1 (deed.run saved disk).2.2).Sound ∧
      (Backend.file saved disk).Outcome deed (deed.run saved disk).1
        (deed.run saved disk).2.1.store := by
  -- Reopening is the one deed that reads the file, so what the file holds matters to it alone.
  by_cases hreopen : deed = .reopen
  · subst hreopen
    cases hload : Saved.load saved.path disk with
    | error e =>
      simp only [Deed.run, hload]
      exact ⟨h, .unopened e rfl⟩
    | ok again =>
      -- what is opened is the store in memory
      cases h.load hload
      simp only [Deed.run, hload]
      exact ⟨h, .done⟩
  · rw [Deed.run_of_ne_reopen hreopen]
    have hstore := deed.onStore_snd saved.store
    cases htarget : deed.target? saved.store with
    | none =>
      rw [htarget] at hstore
      exact ⟨h, .of_store hstore.symm⟩
    | some next =>
      rw [htarget] at hstore
      cases hsave : save saved.path next disk with
      | mk after result =>
        cases result with
        | error fault =>
          simp only [hsave]
          exact ⟨h.refused hsave, .refused fault rfl htarget⟩
        | ok _ =>
          simp only [hsave]
          exact ⟨backed_of_save hsave, .of_store hstore.symm⟩

/-- **One call**: whatever way a deed goes, the store in memory stays sound,
and either the deed is done or the store is what it was. -/
theorem Backend.Does.outcome {deed : Deed} {backend next : Backend}
    {answer : Except Error Answer} (h : backend.Does deed answer next)
    (hsound : backend.Sound) : next.Sound ∧ backend.Outcome deed answer next.store := by
  cases h with
  | inMemory store =>
    rw [deed.inMemory_eq store]
    exact ⟨trivial, .done⟩
  | inFile saved disk => exact Saved.Backed.outcome hsound deed
  | brokenOff fault htarget hcut hspoilt =>
    refine ⟨?_, .refused fault rfl htarget⟩
    rename_i saved disk after next
    -- where the file is beside itself, it may have been spoilt, but then it opens as no store at
    -- all
    by_cases hbeside : BesideItself saved.path
    · rcases hspoilt hbeside with hkept | ⟨content, hread, hnone⟩
      · exact Saved.Backed.keep hsound hkept
      · refine .inl ⟨content, hread, fun store hstore => ?_⟩
        rw [hnone] at hstore
        cases hstore
    · exact Saved.Backed.keep hsound (hcut.keepsFile hbeside)

/-- The cursor moves up to the timestamp of a call that did not fail. -/
theorem Backend.Outcome.cursor {deed : Deed} {backend : Backend} {answer : Except Error Answer}
    {store : Store} (h : backend.Outcome deed answer store) :
    store.cursor =
      (Call.raised? (deed, answer)).elim backend.store.cursor (max backend.store.cursor) := by
  cases h with
  | done =>
    rw [deed.cursor_onStore]
    cases hanswer : (deed.onStore backend.store).1 with
    | ok _ => rfl
    | error e =>
      -- only a change can be refused on a plain store
      cases deed with
      | update asked => rfl
      | advance timestamp => cases hanswer
      | reopen => rfl
  | refused fault hfile htarget => rfl
  | unopened e hreopen => rfl

/-- Moving the cursor is answered by whether it moved, or refused where it
should have moved. -/
theorem Backend.Outcome.advance {timestamp : UInt64} {backend : Backend}
    {answer : Except Error Answer} {store : Store}
    (h : backend.Outcome (.advance timestamp) answer store) :
    answer = .ok (.moved (decide (backend.store.cursor < timestamp))) ∨
      backend.store.cursor < timestamp ∧ ∃ saved disk fault,
        backend = .file saved disk ∧ answer = .error (.store (.cursorNotSaved fault)) := by
  cases h with
  | done =>
    refine .inl ?_
    show Except.ok (Answer.moved (backend.store.advance timestamp).1) = _
    unfold Store.advance
    by_cases hlater : backend.store.cursor < timestamp
    · rw [if_pos hlater, decide_eq_true hlater]
    · rw [if_neg hlater, decide_eq_false hlater]
  | refused fault hfile htarget =>
    -- a later cursor is all that is saved, so a refusal means that it was later
    refine .inr ⟨?_, _, _, fault, hfile, rfl⟩
    by_contra hlater
    simp [Deed.target?, Store.advance, hlater] at htarget
  | unopened e hreopen => cases hreopen

/-! ## §5. Every run. -/

/-- The first call moves the peak to its own timestamp, unless it failed or has
none. -/
theorem peak_cons (first : UInt64) (call : Call) (calls : List Call) :
    peak first (call :: calls) = peak (call.raised?.elim first (max first)) calls := by
  unfold peak
  cases hraised : call.raised? with
  | none => rw [List.filterMap_cons_none hraised, Option.elim_none]
  | some timestamp => rw [List.filterMap_cons_some hraised, List.foldl_cons, Option.elim_some]

/-- A run keeps what holds of a store in a file, and takes its cursor to the
greatest timestamp. -/
theorem Backend.Runs.cursor {first last : Backend} {calls : List Call}
    (hruns : first.Runs calls last) (hsound : first.Sound) :
    last.Sound ∧ last.store.cursor = peak first.store.cursor calls := by
  -- Induction on the run: soundness is what makes the next call have one of the outcomes.
  induction hruns with
  | nil backend => exact ⟨hsound, rfl⟩
  | cons hdoes hrest ih =>
    obtain ⟨hmiddle, houtcome⟩ := hdoes.outcome hsound
    obtain ⟨hlast, hcursor⟩ := ih hmiddle
    refine ⟨hlast, ?_⟩
    rw [hcursor, houtcome.cursor, peak_cons]

/-- Whatever was asked of a store since it was opened and whichever writes
failed, its cursor is the greatest of the first cursor and the timestamps of
all calls that did not fail.  Moving it is answered by whether the timestamp is
greater than that, unless it should move and the write fails; and no other deed
moves it. -/
theorem cursor_eq_peak {first last : Backend} {calls : List Call} (hopened : first.Opened)
    (hruns : first.Runs calls last) :
    last.store.cursor = peak first.store.cursor calls ∧
    (∀ timestamp answer next, last.Does (.advance timestamp) answer next →
      answer = .ok (.moved (decide (peak first.store.cursor calls < timestamp))) ∨
      peak first.store.cursor calls < timestamp ∧ ∃ saved disk fault,
        last = .file saved disk ∧ answer = .error (.store (.cursorNotSaved fault))) ∧
    ∀ deed answer next, deed.timestamp? = none → last.Does deed answer next →
      next.store.cursor = last.store.cursor := by
  -- by the run lemma the cursor is the peak; the rest is about one more call
  obtain ⟨hsound, hcursor⟩ := hruns.cursor hopened.sound
  refine ⟨hcursor, fun timestamp answer next hdoes => ?_, fun deed answer next hother hdoes => ?_⟩
  · rw [← hcursor]
    exact (hdoes.outcome hsound).2.advance
  · rw [(hdoes.outcome hsound).2.cursor]
    cases answer with
    | ok _ => rw [Call.raised?, hother, Option.elim_none]
    | error e => rfl

/-- An empty store whose cursor was moved. -/
def movedStore : Store :=
  { empty with cursor := 2 }

/-- A store that is moved to 3 in vain, to 2, opened anew and moved to 1. -/
theorem moved_cursor_eq_peak :
    ∃ last, (Backend.file ⟨shelfPath, empty⟩ Disk.empty).Opened ∧
      (Backend.file ⟨shelfPath, empty⟩ Disk.empty).Runs
        [(.advance 3, .error (.store (.cursorNotSaved .permissionDenied))),
          (.advance 2, .ok (.moved true)), (.reopen, .ok .opened),
          (.advance 1, .ok (.moved false))] last ∧
      last.store.cursor = 2 := by
  have hopened : (Backend.file ⟨shelfPath, empty⟩ Disk.empty).Opened := by
    refine ⟨?_, fun _ _ => by decide +kernel⟩
    rw [Saved.load, holds_empty.read]
    rfl
  have htarget : (Deed.advance 3).target? empty = some { empty with cursor := 3 } := rfl
  -- nothing was written before the first deed was broken off
  have hbroken : (Backend.file ⟨shelfPath, empty⟩ Disk.empty).Does (.advance 3)
      (.error (.store (.cursorNotSaved .permissionDenied)))
      (.file ⟨shelfPath, empty⟩ Disk.empty) :=
    .brokenOff .permissionDenied htarget (.filling [] 0)
      fun h => absurd h not_besideItself_shelfPath
  obtain ⟨after, hsave⟩ := holds_empty.save_of_not_blocked rfl not_blocked_empty movedStore
  have hmoved : (Deed.advance 2).run ⟨shelfPath, empty⟩ Disk.empty =
      (.ok (.moved true), ⟨shelfPath, movedStore⟩, after) := Deed.run_of_save rfl hsave
  have hload : Saved.load shelfPath after = .ok ⟨shelfPath, movedStore⟩ :=
    (mirrors_of_save hsave).load
  have hagain : Deed.reopen.run ⟨shelfPath, movedStore⟩ after =
      (.ok .opened, ⟨shelfPath, movedStore⟩, after) := Deed.run_eq _ hload
  have hstill : (Deed.advance 1).run ⟨shelfPath, movedStore⟩ after =
      (.ok (.moved false), ⟨shelfPath, movedStore⟩, after) := Deed.run_eq _ hload
  have hruns : (Backend.file ⟨shelfPath, empty⟩ Disk.empty).Runs _ _ :=
    .cons hbroken (.cons (.of_run hmoved) (.cons (.of_run hagain)
      (.cons (.of_run hstill) (.nil _))))
  refine ⟨_, hopened, hruns, ?_⟩
  rw [(cursor_eq_peak hopened hruns).1]
  decide

/-! ## §6. A cursor from elsewhere. -/

/-- A store whose cursor has come far. -/
def later : Store :=
  { shelf with cursor := 50 }

/-- A disk with that store's file, and with a directory where the file beside
should be. -/
def laterDisk : Disk :=
  ⟨[(["s.json"], .file later.write), (["s.tmp"], .directory)], []⟩

/-- A path through a missing directory finds no file, so the store that is
opened there is empty.  A change that is refused has made the directory, and
opened anew the store has the cursor of the file that was there.  And where
the file is beside itself, a write that fails after its last byte has moved
the cursor in the file. -/
theorem cursor_from_elsewhere :
    (Saved.load veiledPath laterDisk = .ok ⟨veiledPath, empty⟩ ∧
      ∃ last, (Backend.file ⟨veiledPath, empty⟩ laterDisk).Runs
          [(.update (.register 5), .error (.disk .isDirectory)), (.reopen, .ok .opened)] last ∧
        last.store.cursor = 50 ∧
        peak empty.cursor [(.update (.register 5), .error (.disk .isDirectory)),
          (.reopen, .ok .opened)] = 0) ∧
    ∃ disk after, Saved.load temporaryPath disk = .ok ⟨temporaryPath, shelf⟩ ∧
      (Deed.advance 50).target? shelf = some later ∧
      Cut temporaryPath later.write disk after ∧
      Saved.load temporaryPath after = .ok ⟨temporaryPath, later⟩ ∧
      peak shelf.cursor
        [(.advance 50, .error (.store (.cursorNotSaved .permissionDenied)))] = 0 := by
  constructor
  · have hread : laterDisk.read veiledPath = .error .notFound := by decide +kernel
    have hparents : withParents veiledPath laterDisk = .ok (laterDisk.put ["a"] .directory) := by
      decide +kernel
    have hbeside : (laterDisk.put ["a"] .directory).write (besidePath veiledPath) [] =
        .error .isDirectory := by
      have hlocate : (laterDisk.put ["a"] .directory).locate (besidePath veiledPath) =
          .ok ["s.tmp"] := by decide +kernel
      rw [Disk.write, hlocate]
      rfl
    have hfile : (laterDisk.put ["a"] .directory).read veiledPath = .ok later.write := by
      decide +kernel
    have hrun : (Deed.update (.register 5)).run ⟨veiledPath, empty⟩ laterDisk =
        (.error (.disk .isDirectory), ⟨veiledPath, empty⟩, laterDisk.put ["a"] .directory) := by
      simp only [Deed.run, Saved.update, Change.apply, granted, save, savePlan, runPlan,
        SaveStep.run, hparents, hbeside]
      rfl
    have hload : Saved.load veiledPath (laterDisk.put ["a"] .directory) =
        .ok ⟨veiledPath, later⟩ := by
      rw [Saved.load, hfile]
      simp only [read?_write]
    have hopened : Deed.reopen.run ⟨veiledPath, empty⟩ (laterDisk.put ["a"] .directory) =
        (.ok .opened, ⟨veiledPath, later⟩, laterDisk.put ["a"] .directory) := by
      simp only [Deed.run, hload]
    refine ⟨?_, _, .cons (.of_run hrun) (.cons (.of_run hopened) (.nil _)), rfl, by decide⟩
    rw [Saved.load, hread]
  · -- the second part: the file is its own file beside, and a full write is already in it
    have hitself : BesideItself temporaryPath := ⟨"s", by decide, by decide⟩
    have hread : Disk.read ⟨[(["s.tmp"], .file shelf.write)], []⟩ temporaryPath =
        .ok shelf.write := by decide +kernel
    obtain ⟨after, hcut, hwritten⟩ :=
      hitself.partly_written rfl hread later.write later.write.length
    rw [List.take_length] at hwritten
    refine ⟨_, after, ?_, by decide, hcut, ?_, by decide⟩
    · simp only [Saved.load, hread, read?_write]
    · simp only [Saved.load, hwritten, read?_write]

end BoardRelay.Store
