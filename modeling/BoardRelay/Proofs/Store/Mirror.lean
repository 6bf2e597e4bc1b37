/-
  BoardRelay.Proofs.Store.Mirror
  ────────────────────────────────
  The store in a file against a plain store.  Whatever is asked of it, in any
  order, and whichever of its writes cannot make the file beside its own, the
  file holds the store in memory (`Mirrors`), and but for those writes answer
  and store are those of a plain store (`reachable_mirrors`).
-/
import BoardRelay.Crawl.Site
import BoardRelay.Proofs.Store.Change
import BoardRelay.Proofs.Store.RoundTrip
import BoardRelay.Proofs.Store.Saving

namespace BoardRelay.Store

/-! ## §1. What is asked of a store. -/

/-- Something asked of a store. -/
inductive Deed where
  | update (asked : Change)
  | advance (timestamp : UInt64)
  /-- Reads the store from its file anew. -/
  | reopen

/-- What a deed is answered with. -/
inductive Answer where
  | reply (reply : Reply)
  | moved (moved : Bool)
  | opened
  deriving DecidableEq

namespace Deed

/-- A deed on a store in a file. -/
def run : Deed → Saved → Disk → Except Error Answer × Saved × Disk
  | .update asked, saved, disk =>
    let (reply, saved, disk) := saved.update asked.apply disk
    (reply.map .reply, saved, disk)
  | .advance timestamp, saved, disk =>
    let (moved, saved, disk) := saved.advance timestamp disk
    (moved.map .moved, saved, disk)
  | .reopen, saved, disk =>
    match Saved.load saved.path disk with
    | .ok again => (.ok .opened, again, disk)
    | .error e => (.error e, saved, disk)

/-- A deed on a plain store. -/
def onStore : Deed → Store → Except Error Answer × Store
  | .update asked, store => ((asked.apply store).1.map .reply, (asked.apply store).2)
  | .advance timestamp, store =>
    (.ok (.moved (store.advance timestamp).1), (store.advance timestamp).2)
  | .reopen, store => (.ok .opened, store)

/-- A deed on a store in memory, as cycles see it. -/
def inMemory : Deed → Store → Except Error Answer × Store
  | .advance timestamp, store =>
    let (moved, store) := Crawl.Registry.memory.advance timestamp store
    (moved.map .moved, store)
  | deed, store => deed.onStore store

/-- The store that a deed has to write, if it writes at all. -/
def target? : Deed → Store → Option Store
  | .update asked, store =>
    match asked.apply store with
    | (.ok _, next) => some next
    | (.error _, _) => none
  | .advance timestamp, store =>
    if (store.advance timestamp).1 then some (store.advance timestamp).2 else none
  | .reopen, _ => none

/-- What a deed is answered with when its write fails. -/
def refusal : Deed → Disk.Fault → Error
  | .advance _, fault => .store (.cursorNotSaved fault)
  | _, fault => .disk fault

/-- A deed does to a store in a file what it does to a plain store, unless
its write fails. -/
structure Faithful (deed : Deed) (saved : Saved) (disk : Disk) : Prop where
  /-- What has nothing to write leaves file and memory: a change that is
  refused, a cursor that does not move, a reopening. -/
  idle : deed.target? saved.store = none →
    deed.run saved disk = ((deed.onStore saved.store).1, saved, disk) ∧
      (deed.onStore saved.store).2 = saved.store
  written {next : Store} {after : Disk} : deed.target? saved.store = some next →
    save saved.path next disk = (after, .ok ()) →
    deed.run saved disk =
      ((deed.onStore saved.store).1, ⟨saved.path, (deed.onStore saved.store).2⟩, after)
  /-- What cannot be written is refused, and leaves file and memory. -/
  blocked {next : Store} : deed.target? saved.store = some next → Blocked saved.path disk →
    ∃ fault after, deed.run saved disk = (.error (deed.refusal fault), saved, after) ∧
      after.read saved.path = disk.read saved.path
  /-- On a plain path nothing else keeps a deed from being written. -/
  free {next : Store} : saved.path.ending = .plain → deed.target? saved.store = some next →
    ¬ Blocked saved.path disk → ∃ after, save saved.path next disk = (after, .ok ())
  memory : deed.inMemory saved.store = deed.onStore saved.store

end Deed

/-! ## §2. What happens to a store in a file. -/

/-- The store that the content of a file stands for; no file stands for the
empty one. -/
def ofContent? : Option Text.Bytes → Option Store
  | none => some empty
  | some content => Store.read? content

/-- Whether the file holds the store in memory. -/
def Mirrors (saved : Saved) (disk : Disk) : Prop :=
  ∃ content, Holds saved.path disk content ∧ ofContent? content = some saved.store

/-- What a store that was opened at a path can come to, and the plain store
beside it to which the same was done but for the writes that failed. -/
inductive Reachable (path : Disk.Path) : Saved → Disk → Store → Prop
  | opened {saved : Saved} {disk : Disk} {content : Option Text.Bytes} :
    Holds path disk content → Saved.load path disk = .ok saved →
    Reachable path saved disk saved.store
  /-- Others do what they like, but not to the file. -/
  | meanwhile {saved : Saved} {disk other : Disk} {plain : Store} :
    Reachable path saved disk plain →
    (∀ content, Holds path disk content → Holds path other content) →
    Reachable path saved other plain
  /-- A deed that writes nothing, or whose write goes through. -/
  | done {saved : Saved} {disk : Disk} {plain : Store} (deed : Deed) :
    Reachable path saved disk plain →
    (∀ next, deed.target? saved.store = some next →
      ∃ after, save saved.path next disk = (after, .ok ())) →
    Reachable path (deed.run saved disk).2.1 (deed.run saved disk).2.2 (deed.onStore plain).2
  /-- A deed whose write cannot make the file beside. -/
  | failed {saved : Saved} {disk : Disk} {plain next : Store} (deed : Deed) :
    Reachable path saved disk plain → deed.target? saved.store = some next →
    Blocked saved.path disk →
    Reachable path (deed.run saved disk).2.1 (deed.run saved disk).2.2 plain

/-! ## §3. One deed. -/

namespace Deed

/-- A plain store becomes what a deed would have to write. -/
theorem onStore_snd (deed : Deed) (store : Store) :
    (deed.onStore store).2 = (deed.target? store).getD store := by
  cases deed with
  | update asked =>
    rcases asked.granted_or_refused store with ⟨reply, next, happly, -⟩ | ⟨e, happly⟩
    · simp only [onStore, target?, happly, Option.getD_some]
    · simp only [onStore, target?, happly, Option.getD_none]
  | advance timestamp =>
    by_cases hlater : store.cursor < timestamp
    · simp [onStore, target?, Store.advance, hlater]
    · simp [onStore, target?, Store.advance, hlater]
  | reopen => rfl

/-- Cycles that keep their store in memory see each deed done as to a plain
one. -/
theorem inMemory_eq (deed : Deed) (store : Store) : deed.inMemory store = deed.onStore store := by
  cases deed with
  | update asked => rfl
  | advance timestamp =>
    simp only [inMemory, onStore, Crawl.Registry.memory, Except.map]
  | reopen => rfl

/-- All that a deed but reopening does to a store in a file: it saves what it
has to write and takes it over, or leaves the store in memory. -/
theorem run_of_ne_reopen {deed : Deed} (h : deed ≠ .reopen) (saved : Saved) (disk : Disk) :
    deed.run saved disk =
      match deed.target? saved.store with
      | none => ((deed.onStore saved.store).1, saved, disk)
      | some next =>
        match save saved.path next disk with
        | (after, .ok ()) => ((deed.onStore saved.store).1, ⟨saved.path, next⟩, after)
        | (after, .error fault) => (.error (deed.refusal fault), saved, after) := by
  cases deed with
  | update asked =>
    -- A refusal never gets as far as the file; what is granted is as good as the save.
    rcases asked.granted_or_refused saved.store with ⟨reply, next, happly, -⟩ | ⟨e, happly⟩
    · cases hsave : save saved.path next disk with
      | mk after result =>
        cases result <;>
          simp [run, onStore, target?, refusal, Saved.update, happly, hsave, Except.map]
    · simp [run, onStore, target?, Saved.update, happly, Except.map]
  | advance timestamp =>
    -- A cursor that does not move is not written.
    by_cases hlater : saved.store.cursor < timestamp
    · cases hsave : save saved.path { saved.store with cursor := timestamp } disk with
      | mk after result =>
        cases result <;>
          simp [run, onStore, target?, refusal, Saved.advance, Store.advance, hlater, hsave,
            Except.map]
    · simp [run, onStore, target?, Saved.advance, Store.advance, hlater, Except.map]
  | reopen => exact absurd rfl h

/-- So does reopening, where what is read anew is what is in memory already. -/
theorem run_eq (deed : Deed) {saved : Saved} {disk : Disk}
    (hload : Saved.load saved.path disk = .ok saved) :
    deed.run saved disk =
      match deed.target? saved.store with
      | none => ((deed.onStore saved.store).1, saved, disk)
      | some next =>
        match save saved.path next disk with
        | (after, .ok ()) => ((deed.onStore saved.store).1, ⟨saved.path, next⟩, after)
        | (after, .error fault) => (.error (deed.refusal fault), saved, after) := by
  by_cases hreopen : deed = .reopen
  · subst hreopen
    simp [run, onStore, target?, hload]
  · exact run_of_ne_reopen hreopen saved disk

/-- What a deed writes is taken over if the write goes through. -/
theorem run_of_save {deed : Deed} {saved : Saved} {next : Store} {disk after : Disk}
    (htarget : deed.target? saved.store = some next)
    (hsave : save saved.path next disk = (after, .ok ())) :
    deed.run saved disk = ((deed.onStore saved.store).1, ⟨saved.path, next⟩, after) := by
  have hne : deed ≠ .reopen := by
    rintro rfl
    cases htarget
  rw [run_of_ne_reopen hne, htarget]
  simp only [hsave]

end Deed

/-! ## §4. File and memory. -/

/-- **Opening the file again** gives the store in memory, so a process that
ends here has lost nothing. -/
theorem Mirrors.load {saved : Saved} {disk : Disk} (h : Mirrors saved disk) :
    Saved.load saved.path disk = .ok saved := by
  obtain ⟨content, hholds, hstore⟩ := h
  obtain ⟨path, store⟩ := saved
  rw [Saved.load, hholds.read]
  cases content with
  | none =>
    cases hstore
    rfl
  | some content =>
    have hread : Store.read? content = some store := hstore
    simp only [Option.elim, hread]

/-- What was opened is mirrored by its file. -/
theorem mirrors_of_load {path : Disk.Path} {saved : Saved} {disk : Disk}
    {content : Option Text.Bytes} (hholds : Holds path disk content)
    (h : Saved.load path disk = .ok saved) : saved.path = path ∧ Mirrors saved disk := by
  rw [Saved.load, hholds.read] at h
  -- no file stands for the empty store, and a file for what is read from it
  cases content with
  | none =>
    cases h
    exact ⟨rfl, none, hholds, rfl⟩
  | some content =>
    cases hstore : Store.read? content with
    | none => simp [hstore] at h
    | some store =>
      simp only [Option.elim, hstore, Except.ok.injEq] at h
      subst h
      exact ⟨rfl, some content, hholds, hstore⟩

/-- What was saved is mirrored by its file. -/
theorem mirrors_of_save {path : Disk.Path} {next : Store} {disk after : Disk}
    (h : save path next disk = (after, .ok ())) : Mirrors ⟨path, next⟩ after :=
  ⟨some next.write, read_save h, read?_write next⟩

/-- **A deed that is not kept from writing** does to file and memory what it
does to a plain store, and the file mirrors the result. -/
theorem Mirrors.done {deed : Deed} {saved : Saved} {disk : Disk} (h : Mirrors saved disk)
    (hsaves : ∀ next, deed.target? saved.store = some next →
      ∃ after, save saved.path next disk = (after, .ok ())) :
    ∃ after, deed.run saved disk =
        ((deed.onStore saved.store).1, ⟨saved.path, (deed.onStore saved.store).2⟩, after) ∧
      Mirrors ⟨saved.path, (deed.onStore saved.store).2⟩ after := by
  rw [deed.onStore_snd, deed.run_eq h.load]
  -- what has nothing to write has changed nothing: the file mirrors it still
  cases htarget : deed.target? saved.store with
  | none => exact ⟨disk, rfl, h⟩
  | some next =>
    obtain ⟨after, hsave⟩ := hsaves next htarget
    refine ⟨after, ?_, mirrors_of_save hsave⟩
    simp only [hsave, Option.getD_some]

/-- **A deed whose write is blocked** is refused, and both file and memory
stand as before: reading the file gives what it gave. -/
theorem Mirrors.failed {deed : Deed} {saved : Saved} {disk : Disk} {next : Store}
    (h : Mirrors saved disk) (htarget : deed.target? saved.store = some next)
    (hblocked : Blocked saved.path disk) :
    ∃ fault after, deed.run saved disk = (.error (deed.refusal fault), saved, after) ∧
      after.read saved.path = disk.read saved.path ∧ Mirrors saved after := by
  -- The account is needed twice: for the file, and for opening it again.
  obtain ⟨content, hholds, hstore⟩ := id h
  obtain ⟨after, fault, hsave, hafter⟩ := hholds.save_of_blocked hblocked next
  refine ⟨fault, after, ?_, hafter.read.trans hholds.read.symm, content, hafter, hstore⟩
  rw [deed.run_eq h.load, htarget]
  simp only [hsave]

/-- Each clause of `Deed.Faithful`, for a store that its file mirrors. -/
theorem Mirrors.faithful {saved : Saved} {disk : Disk} (h : Mirrors saved disk) (deed : Deed) :
    deed.Faithful saved disk where
  -- nothing to write, a save that succeeds, one that is blocked, one that nothing blocks
  idle hidle := by
    refine ⟨?_, ?_⟩
    · rw [deed.run_eq h.load, hidle]
    · rw [deed.onStore_snd, hidle, Option.getD_none]
  written hnext hsave := by
    rw [deed.run_eq h.load, deed.onStore_snd, hnext]
    simp only [hsave, Option.getD_some]
  blocked hnext hblocked := by
    obtain ⟨fault, after, hrun, hread, -⟩ := h.failed hnext hblocked
    exact ⟨fault, after, hrun, hread⟩
  free hplain _ hfree := by
    obtain ⟨content, hholds, -⟩ := h
    exact hholds.save_of_not_blocked hplain hfree _
  memory := deed.inMemory_eq saved.store

/-! ## §5. Every run. -/

/-- **The run invariant**: wherever a run has come to, the store in memory is
the plain one, and the file mirrors it. -/
theorem Reachable.mirrors {path : Disk.Path} {saved : Saved} {disk : Disk} {plain : Store}
    (h : Reachable path saved disk plain) :
    saved.path = path ∧ saved.store = plain ∧ Mirrors saved disk := by
  -- Induction on the run.  Each step needs the file to mirror the store before it, or reopening
  -- could show another.
  induction h with
  | opened hholds hload =>
    obtain ⟨hpath, hmirrors⟩ := mirrors_of_load hholds hload
    exact ⟨hpath, rfl, hmirrors⟩
  | meanwhile _ hother ih =>
    -- the file is all that the account speaks of
    obtain ⟨hpath, hstore, content, hholds, hcontent⟩ := ih
    exact ⟨hpath, hstore, content, hpath ▸ hother content (hpath ▸ hholds), hcontent⟩
  | done deed _ hsaves ih =>
    obtain ⟨hpath, hstore, hmirrors⟩ := ih
    obtain ⟨after, hrun, hafter⟩ := hmirrors.done hsaves
    rw [hrun]
    exact ⟨hpath, hstore ▸ rfl, hafter⟩
  | failed deed _ htarget hblocked ih =>
    obtain ⟨hpath, hstore, hmirrors⟩ := ih
    obtain ⟨fault, after, hrun, -, hafter⟩ := hmirrors.failed htarget hblocked
    rw [hrun]
    exact ⟨hpath, hstore, hafter⟩

/-- At every point of every run the file holds the store in memory, that
store is the plain one, opening the file again gives it, and each deed is
faithful to the plain store. -/
theorem reachable_mirrors {path : Disk.Path} {saved : Saved} {disk : Disk} {plain : Store}
    (h : Reachable path saved disk plain) :
    saved = ⟨path, plain⟩ ∧ Mirrors saved disk ∧ Saved.load path disk = .ok saved ∧
      ∀ deed : Deed, deed.Faithful saved disk := by
  obtain ⟨rfl, rfl, hmirrors⟩ := h.mirrors
  exact ⟨rfl, hmirrors, hmirrors.load, hmirrors.faithful⟩

/-! ## §6. Two stores. -/

/-- A store with the user of one chat. -/
def shelf : Store :=
  ⟨[⟨1, 7⟩], [], [], 0⟩

/-- A path to a file of the current directory. -/
def shelfPath : Disk.Path :=
  ⟨false, [.into "s.json"], .plain⟩

/-- On the empty disk there is no file, nor does making directories show one. -/
theorem holds_empty : Holds shelfPath Disk.empty none := by
  have htree : Disk.empty.Tree := by
    intro place node hnode
    cases place with
    | nil => rfl
    | cons name place => cases hnode
  have hsteps : shelfPath.steps = ["s.json"].map .into := rfl
  exact holds_none_of_read htree hsteps (by decide +kernel) (by decide +kernel)

/-- There the file beside can be made. -/
theorem not_blocked_empty : ¬ Blocked shelfPath Disk.empty := by
  intro hblocked
  have hparents : withParents shelfPath Disk.empty = .ok Disk.empty :=
    withParents_eq_self fun above habove => by
      cases habove
      exact .inl rfl
  obtain ⟨fault, hfault⟩ := hblocked Disk.empty hparents
  have hlocate : Disk.empty.locate (besidePath shelfPath) = .ok ["s.tmp"] := by decide +kernel
  have hwrite : Disk.empty.write (besidePath shelfPath) [] =
      .ok (Disk.empty.put ["s.tmp"] (.file [])) :=
    Disk.write_eq_ok_iff.mpr ⟨["s.tmp"], hlocate, nofun, by decide +kernel, rfl⟩
  -- being blocked would mean that this write fails
  rw [hfault] at hwrite
  cases hwrite

/-- A store without a file, once a chat is registered. -/
theorem registered_mirrors : ∃ saved disk, Reachable shelfPath saved disk shelf ∧
    saved = ⟨shelfPath, shelf⟩ ∧ Saved.load shelfPath disk = .ok ⟨shelfPath, shelf⟩ := by
  have hmirrors : Mirrors ⟨shelfPath, empty⟩ Disk.empty := ⟨none, holds_empty, rfl⟩
  have hopened : Reachable shelfPath ⟨shelfPath, empty⟩ Disk.empty empty :=
    .opened holds_empty hmirrors.load
  -- the empty disk has no file beside in the way, so the write goes through
  have hdone := hopened.done (.update (.register 7)) fun next _ =>
    holds_empty.save_of_not_blocked rfl not_blocked_empty next
  have hplain : ((Deed.update (.register 7)).onStore empty).2 = shelf := by decide +kernel
  rw [hplain] at hdone
  obtain ⟨hsaved, -, hload, -⟩ := reachable_mirrors hdone
  rw [hsaved] at hdone hload
  exact ⟨_, _, hdone, rfl, hload⟩

/-- A path to the same file by way of a directory that may be missing. -/
def veiledPath : Disk.Path :=
  ⟨false, [.into "a", .up, .into "s.json"], .plain⟩

/-- A disk with the store's file, without that directory, and with a directory
where the file beside should be. -/
def veiledDisk : Disk :=
  ⟨[(["s.json"], .file shelf.write), (["s.tmp"], .directory)], []⟩

/-- A path that passes through a missing directory and back finds no file.  A
write that is refused has made the directory, and opened again the store is
the one that stood there all the time. -/
theorem refused_update_unveils :
    veiledDisk.read veiledPath = .error .notFound ∧
      Saved.load veiledPath veiledDisk = .ok ⟨veiledPath, empty⟩ ∧
      Blocked veiledPath veiledDisk ∧
      ∃ after, (Deed.update (.register 5)).run ⟨veiledPath, empty⟩ veiledDisk =
          (.error (.disk .isDirectory), ⟨veiledPath, empty⟩, after) ∧
        Saved.load veiledPath after = .ok ⟨veiledPath, shelf⟩ ∧ shelf ≠ empty := by
  have hread : veiledDisk.read veiledPath = .error .notFound := by decide +kernel
  have hparents : withParents veiledPath veiledDisk = .ok (veiledDisk.put ["a"] .directory) := by
    decide +kernel
  -- With the directory made, both paths lead through it and back.
  have hbeside : (veiledDisk.put ["a"] .directory).write (besidePath veiledPath) [] =
      .error .isDirectory := by
    have hlocate : (veiledDisk.put ["a"] .directory).locate (besidePath veiledPath) =
        .ok ["s.tmp"] := by decide +kernel
    rw [Disk.write, hlocate]
    rfl
  have hfile : (veiledDisk.put ["a"] .directory).read veiledPath = .ok shelf.write := by
    decide +kernel
  refine ⟨hread, ?_, ?_, veiledDisk.put ["a"] .directory, ?_, ?_, by decide⟩
  · rw [Saved.load, hread]
  · intro made hmade
    rw [hparents] at hmade
    cases hmade
    exact ⟨.isDirectory, hbeside⟩
  · simp only [Deed.run, Saved.update, Change.apply, granted, save, savePlan, runPlan, SaveStep.run,
      hparents, hbeside]
    rfl
  · rw [Saved.load, hfile]
    simp only [read?_write]

end BoardRelay.Store
