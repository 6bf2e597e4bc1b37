/-
  BoardRelay.Proofs.Store.Rounds
  ────────────────────────────────
  Writing a store and opening it again, over and over.  What is written is
  read back as that store, whatever its texts and numbers are; and once a
  write to a path has gone through the next one does (`save_again`), so no
  number of rounds changes the store (`unchanged_by_rounds`).
-/
import BoardRelay.Proofs.Disk.Entries
import BoardRelay.Proofs.Store.Mirror

namespace BoardRelay.Store

/-! ## §1. Rounds. -/

/-- A store in a file after this many rounds: in each it is written and
opened anew. -/
def Saved.rounds : Nat → Saved → Disk → Except Error (Saved × Disk)
  | 0, saved, disk => .ok (saved, disk)
  | count + 1, saved, disk =>
    match save saved.path saved.store disk with
    | (_, .error fault) => .error (.disk fault)
    | (after, .ok ()) =>
      match Saved.load saved.path after with
      | .error e => .error e
      | .ok opened => rounds count opened after

/-! ## §2. One round. -/

/-- A save that went through has left all directories as they were once those
of the file had been made. -/
theorem directory_save_iff {path : Disk.Path} {store : Store} {disk made after : Disk}
    (hmade : withParents path disk = .ok made)
    (hsave : save path store disk = (after, .ok ())) :
    made.KeepsDirectories after ∧
      ∀ place, after.node? place = some .directory ↔ made.node? place = some .directory := by
  obtain ⟨made', created, filled, hmade', hcreated, hfilled, hafter⟩ := save_eq_ok_iff.mp hsave
  cases hmade.symm.trans hmade'
  have hcreate := Disk.changesOnly_write hcreated
  have hfill := Disk.changesOnly_write hfilled
  have hmove := Disk.changesOnly_rename hafter
  refine ⟨(hcreate.keeps.trans hfill.keeps).trans hmove.keeps, fun place => ?_⟩
  rw [hmove.directory, hfill.directory, hcreate.directory]

/-- Where a save went through, the next one does, of whatever store. -/
theorem save_again {path : Disk.Path} {store : Store} {disk after : Disk}
    (h : save path store disk = (after, .ok ())) (next : Store) :
    ∃ last, save path next after = (last, .ok ()) := by
  obtain ⟨made, created, filled, hmade, hcreated, hfilled, hafter⟩ := save_eq_ok_iff.mp h
  obtain ⟨hkeeps, hdirectory⟩ := directory_save_iff hmade h
  -- The file beside leads where it led before, and no directory is there.
  obtain ⟨beside, hbeside, hnode, hnames, -⟩ := Disk.write_eq_ok_iff.mp hcreated
  have hcreated' : after.write (besidePath path) [] = .ok (after.put beside (.file [])) :=
    Disk.write_eq_ok_iff.mpr ⟨beside, Disk.locate_keeps hkeeps hbeside,
      fun hdir => hnode ((hdirectory beside).mp hdir), hnames, rfl⟩
  obtain ⟨filled', hfilled'⟩ := Disk.write_again hcreated' next.write
  -- The file itself is there, so its directories are, and it can be replaced.
  have hread := read_save h
  obtain ⟨target, htarget, hfile, -⟩ := Disk.read_eq_ok_iff.mp hread
  obtain ⟨-, -, -, -, -, -, htargetNames, -, -⟩ := Disk.rename_eq_ok_iff.mp hafter
  have hkeeps' := (Disk.keeps_write hcreated').trans (Disk.keeps_write hfilled')
  have hfree : filled'.node? target ≠ some .directory := by
    rw [Ne, Disk.directory_write_iff hfilled', Disk.directory_write_iff hcreated']
    exact Disk.ne_directory hfile
  obtain ⟨source, hsource, hcontent, -⟩ := Disk.read_eq_ok_iff.mp (Disk.read_write hfilled')
  exact ⟨_, save_eq_ok_iff.mpr ⟨after, _, filled', withParents_of_read hread, hcreated', hfilled',
    Disk.rename_eq_ok_iff.mpr ⟨source, target, next.write, hsource,
      Disk.locate_keeps hkeeps' htarget, hcontent, htargetNames, hfree, rfl⟩⟩⟩

/-! ## §3. Any number of rounds. -/

/-- **Every round can be followed by another**: it leaves a file that opens as
the store, and can be replaced. -/
theorem rounds_eq_ok {path : Disk.Path} {store : Store} {disk after : Disk}
    (h : save path store disk = (after, .ok ())) (count : Nat) :
    ∃ last, Saved.rounds count ⟨path, store⟩ disk = .ok (⟨path, store⟩, last) := by
  induction count generalizing disk after with
  | zero => exact ⟨disk, rfl⟩
  | succ count ih =>
    -- what a round opens is what it wrote, and the next one can write it again
    obtain ⟨next, hnext⟩ := save_again h store
    obtain ⟨last, hlast⟩ := ih hnext
    have hload : Saved.load path after = .ok ⟨path, store⟩ := (mirrors_of_save h).load
    refine ⟨last, ?_⟩
    simp only [Saved.rounds, h, hload]
    exact hlast

/-- Every store is read back from its text as it is, and where it can be
written once it can be written and opened any number of times, and stays what
it is. -/
theorem unchanged_by_rounds (store : Store) :
    read? store.write = some store ∧
      ∀ (path : Disk.Path) (disk after : Disk), save path store disk = (after, .ok ()) →
        ∀ count, ∃ last, Saved.rounds count ⟨path, store⟩ disk = .ok (⟨path, store⟩, last) :=
  ⟨read?_write store, fun _ _ _ hsave count => rounds_eq_ok hsave count⟩

/-- A store with the largest numbers, a link that is there twice, and texts
with all that has to be escaped. -/
def oddStore : Store :=
  ⟨[⟨-9223372036854775808, 9223372036854775807⟩],
    [⟨0, "\"b\\/", "\x00\x08\t\n\x0c\r\x1f\x7f", "", "é😀\u2028", true⟩], [⟨1, 2⟩, ⟨1, 2⟩],
    18446744073709551615⟩

/-- Three rounds leave it as it is. -/
theorem oddStore_unchanged : ∃ after last, save shelfPath oddStore Disk.empty = (after, .ok ()) ∧
    Saved.rounds 3 ⟨shelfPath, oddStore⟩ Disk.empty = .ok (⟨shelfPath, oddStore⟩, last) := by
  obtain ⟨after, hsave⟩ := holds_empty.save_of_not_blocked rfl not_blocked_empty oddStore
  obtain ⟨last, hlast⟩ := (unchanged_by_rounds oddStore).2 shelfPath Disk.empty after hsave 3
  exact ⟨after, last, hsave, hlast⟩

end BoardRelay.Store
