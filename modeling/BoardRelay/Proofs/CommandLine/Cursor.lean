/-
  BoardRelay.Proofs.CommandLine.Cursor
  ────────────────────────────────
  What is printed of the stored cursor: the number, and beside it what it is as a
  number of seconds since the start of 1970.  It should be the date of that instant,
  or that there is none (`Dated`), and it is, for all cursors but the greatest ones:
  these are negative as signed words, and stand beside a date before 1970
  (`cursor_dated`).  Two cursors never stand beside one date.
-/
import BoardRelay.CommandLine.Run
import BoardRelay.Proofs.Clock.Written
import BoardRelay.Proofs.Store.Mirror

namespace BoardRelay.CommandLine

open BoardRelay.Clock

/-! ## §1. Words and dates. -/

/-- What stands beside a cursor. -/
def beside (cursor : UInt64) : String :=
  (textOfSeconds? cursor.toInt64.toInt).getD "out of range"

/-- Whether a text says of a number of seconds which instant is so long after the
start of 1970, or that its year is beyond those that are written. -/
def Dated (cursor : Nat) (text : String) : Prop :=
  if (Instant.next^[cursor] epoch).date.year ≤ 262142 then
    (Instant.next^[cursor] epoch).WrittenAs text
  else text = "out of range"

/-- A cursor as a signed word: itself, or less by the number of words. -/
theorem toInt_cases (cursor : UInt64) :
    cursor.toNat < Word64.half ∧ cursor.toInt64.toInt = cursor.toNat ∨
      Word64.half ≤ cursor.toNat ∧ cursor.toInt64.toInt = cursor.toNat - Word64.count := by
  have hint : cursor.toInt64.toInt = cursor.toBitVec.toInt := rfl
  rw [hint, BitVec.toInt_eq_toNat_cond, UInt64.toNat_toBitVec, Word64.half, Word64.count]
  split
  · exact .inl ⟨by omega, rfl⟩
  · exact .inr ⟨by omega, rfl⟩

/-- A word is found again from its signed number. -/
theorem toInt64_injective {cursor other : UInt64}
    (h : cursor.toInt64.toInt = other.toInt64.toInt) : cursor = other :=
  congrArg Int64.toUInt64 (Int64.toInt.inj h)

/-- The seconds that have a date. -/
def HasDate (seconds : Int) : Prop :=
  -8334601228800 ≤ seconds ∧ seconds ≤ 8210266876799

/-- The last words, which have a date as signed words. -/
def Late (cursor : UInt64) : Prop :=
  Word64.count ≤ cursor.toNat + 8334601228800

/-- A number that has a date is the same as a signed word. -/
theorem toInt_of_le {cursor : UInt64} (h : cursor.toNat ≤ 8210266876799) :
    cursor.toInt64.toInt = cursor.toNat := by
  rcases toInt_cases cursor with ⟨-, hint⟩ | ⟨hhalf, -⟩
  · exact hint
  · rw [Word64.half] at hhalf
    omega

/-- The last words are negative as signed words. -/
theorem toInt_of_late {cursor : UInt64} (h : Late cursor) :
    cursor.toInt64.toInt = cursor.toNat - Word64.count := by
  rcases toInt_cases cursor with ⟨hhalf, -⟩ | ⟨-, hint⟩
  · rw [Late, Word64.count] at h
    rw [Word64.half] at hhalf
    omega
  · exact hint

/-- The first words have the date of their number, the last ones another. -/
theorem hasDate_iff {cursor : UInt64} :
    HasDate cursor.toInt64.toInt ↔ cursor.toNat ≤ 8210266876799 ∨ Late cursor := by
  have hbound : cursor.toNat < Word64.count := cursor.toNat_lt
  rw [HasDate, Late]
  rw [Word64.count] at hbound ⊢
  rcases toInt_cases cursor with ⟨hhalf, hint⟩ | ⟨hhalf, hint⟩
  · rw [Word64.half] at hhalf
    omega
  · rw [Word64.half] at hhalf
    rw [Word64.count] at hint
    omega

/-- Beside a cursor stands the date of its signed number, if that has one. -/
theorem beside_cases (cursor : UInt64) :
    HasDate cursor.toInt64.toInt ∧
      (Instant.ofSeconds cursor.toInt64.toInt).WrittenAs (beside cursor) ∨
    ¬HasDate cursor.toInt64.toInt ∧ beside cursor = "out of range" := by
  rw [beside]
  cases htext : textOfSeconds? cursor.toInt64.toInt with
  | some text =>
    obtain ⟨hdate, rfl⟩ := textOfSeconds?_eq_some_iff.mp htext
    exact .inl ⟨hdate, Instant.writtenAs_ofSeconds _⟩
  | none =>
    refine .inr ⟨fun hdate => ?_, rfl⟩
    rw [textOfSeconds?_eq_some_iff.mpr ⟨hdate, rfl⟩] at htext
    cases htext

/-- No date reads so. -/
theorem not_writtenAs_outOfRange (instant : Instant) : ¬instant.WrittenAs "out of range" := by
  intro h
  have hlast := h.getLast?
  revert hlast
  decide

/-- What should stand beside a number: the date of so many seconds as long as
there is one. -/
theorem dated_iff {cursor : Nat} {text : String} : Dated cursor text ↔
    cursor ≤ 8210266876799 ∧ (Instant.ofSeconds cursor).WrittenAs text ∨
      8210266876799 < cursor ∧ text = "out of range" := by
  have hyear : (Instant.ofSeconds cursor).date.year ≤ 262142 ↔ (cursor : Int) ≤ 8210266876799 :=
    Instant.year_le_iff
  rw [Dated, ← Instant.ofSeconds_natCast]
  by_cases hcursor : cursor ≤ 8210266876799
  · have hnot : ¬8210266876799 < cursor := by omega
    rw [if_pos (hyear.mpr (by omega))]
    simp [hcursor, hnot]
  · have hlate : 8210266876799 < cursor := by omega
    rw [if_neg (mt hyear.mp (by omega))]
    simp [hcursor, hlate]

/-- **The text beside a cursor is right just when the cursor is none of the
last words.** -/
theorem dated_beside_iff (cursor : UInt64) : Dated cursor.toNat (beside cursor) ↔
    cursor.toNat + 8334601228800 < Word64.count := by
  rw [dated_iff]
  -- Of the four ways in which a signed number can have a date and the cursor one, only a late
  -- cursor has the wrong one.
  rcases beside_cases cursor with ⟨hdate, hwritten⟩ | ⟨hdate, hout⟩
  · rcases hasDate_iff.mp hdate with hearly | hlate
    · rw [toInt_of_le hearly] at hwritten
      refine iff_of_true (.inl ⟨hearly, hwritten⟩) ?_
      rw [Word64.count]
      omega
    · -- there is a date, but none of so late a number
      refine iff_of_false ?_ (Nat.not_lt.mpr hlate)
      rintro (⟨hearly, -⟩ | ⟨-, hout⟩)
      · rw [Late, Word64.count] at hlate
        omega
      · rw [hout] at hwritten
        exact not_writtenAs_outOfRange _ hwritten
  · have hneither := mt hasDate_iff.mpr hdate
    rw [not_or, Late, Nat.not_le, Nat.not_le] at hneither
    exact iff_of_true (.inr ⟨hneither.1, hout⟩) hneither.2

/-- The last words stand beside a date before 1970, the one of the instant 2^64 seconds
before their own. -/
theorem exists_writtenAs_beside {cursor : UInt64} (hlate : Late cursor) :
    ∃ instant : Instant, instant.WrittenAs (beside cursor) ∧
      Instant.next^[Word64.count - cursor.toNat] instant = epoch := by
  have hbound : cursor.toNat < Word64.count := cursor.toNat_lt
  rcases beside_cases cursor with ⟨-, hwritten⟩ | ⟨hdate, -⟩
  · refine ⟨_, hwritten, ?_⟩
    rw [← Instant.ofSeconds_add, ← Instant.ofSeconds_zero, toInt_of_late hlate]
    congr 1
    omega
  · exact absurd (hasDate_iff.mpr (.inr hlate)) hdate

/-- No date stands beside two cursors. -/
theorem beside_injective {cursor other : UInt64} (hsame : beside cursor = beside other)
    (hdate : beside cursor ≠ "out of range") : cursor = other := by
  -- both texts are dates, so the instants are the same, and with them the seconds and the words
  rcases beside_cases cursor with ⟨-, hwritten⟩ | ⟨-, hout⟩
  · rcases beside_cases other with ⟨-, hwritten'⟩ | ⟨-, hout⟩
    · rw [← hsame] at hwritten'
      exact toInt64_injective (Instant.ofSeconds_injective (hwritten.unique hwritten'))
    · exact absurd (hsame.trans hout) hdate
  · exact absurd hout hdate

/-! ## §2. The command. -/

/-- The command prints the cursor and the text beside it, and leaves the disk
alone. -/
theorem runCommand_cursor {settings : Settings} {disk : Disk} {saved : Store.Saved}
    (hload : Store.Saved.load (Disk.Path.ofText settings.storage.path) disk = .ok saved)
    (situation : Situation) : runCommand settings situation .cursor disk =
      (.ok (toString saved.store.cursor ++ " (" ++ beside saved.store.cursor ++ ")\n"), disk) := by
  simp only [runCommand, hload]
  rfl

/-- What is printed of a stored cursor is right just when it is none of the last
8334601228800 words, which stand beside the date of an instant 2^64 seconds too early,
and no other cursor stands beside its date. -/
theorem cursor_dated {settings : Settings} {disk : Disk} {path : Disk.Path} {store : Store}
    (hload : Store.Saved.load (Disk.Path.ofText settings.storage.path) disk = .ok ⟨path, store⟩) :
    (∀ situation : Situation, runCommand settings situation .cursor disk =
      (.ok (toString store.cursor ++ " (" ++ beside store.cursor ++ ")\n"), disk)) ∧
    (Dated store.cursor.toNat (beside store.cursor) ↔
      store.cursor.toNat + 8334601228800 < Word64.count) ∧
    (Word64.count ≤ store.cursor.toNat + 8334601228800 →
      ∃ instant : Instant, instant.WrittenAs (beside store.cursor) ∧
        Instant.next^[Word64.count - store.cursor.toNat] instant = epoch) ∧
    ∀ other : UInt64, beside store.cursor = beside other →
      beside store.cursor ≠ "out of range" → store.cursor = other := by
  have hrun := runCommand_cursor hload
  exact ⟨hrun, dated_beside_iff store.cursor, exists_writtenAs_beside, fun _ => beside_injective⟩

/-- A store that is empty but for its cursor. -/
def storeAt (cursor : UInt64) : Store :=
  { Store.empty with cursor := cursor }

/-- A disk with such a store, where settings have it that do not say. -/
def diskAt (cursor : UInt64) : Disk :=
  ⟨[(["data"], .directory), (["data", "store.json"], .file (storeAt cursor).write)], []⟩

/-- Every word can be a stored cursor. -/
theorem load_diskAt (cursor : UInt64) :
    Store.Saved.load (Disk.Path.ofText ({} : Settings).storage.path) (diskAt cursor) =
      .ok ⟨Disk.Path.ofText "data/store.json", storeAt cursor⟩ := by
  have hpath : Disk.Path.ofText "data/store.json" =
      ⟨false, [.into "data", .into "store.json"], .plain⟩ := by decide +kernel
  have hread : (diskAt cursor).read (Disk.Path.ofText "data/store.json") =
      .ok (storeAt cursor).write := by
    rw [hpath]
    exact Disk.read_eq_ok_iff.mpr ⟨["data", "store.json"], rfl, rfl, rfl⟩
  have hmirrors : Store.Mirrors ⟨Disk.Path.ofText "data/store.json", storeAt cursor⟩
      (diskAt cursor) := ⟨some (storeAt cursor).write, hread, Store.read?_write _⟩
  exact hmirrors.load

/-- A cursor with its date, which is not that of the next, and the last word. -/
theorem autumn_cursor_dated :
    (∀ situation : Situation, runCommand {} situation .cursor (diskAt 1700000000) =
      (.ok (toString (1700000000 : UInt64) ++ " (2023-11-14T22:13:20+00:00)\n"),
        diskAt 1700000000)) ∧
    Dated (1700000000 : UInt64).toNat "2023-11-14T22:13:20+00:00" ∧
    beside 1700000000 ≠ beside 1700000001 ∧
    ∃ instant : Instant, instant.WrittenAs (beside 18446744073709551615) ∧
      Instant.next^[Word64.count - (18446744073709551615 : UInt64).toNat] instant = epoch := by
  have hdate : beside 1700000000 = "2023-11-14T22:13:20+00:00" := by decide +kernel
  have hearly : (1700000000 : UInt64).toNat + 8334601228800 < Word64.count := by decide +kernel
  obtain ⟨hrun, hdated, -, hother⟩ := cursor_dated (load_diskAt 1700000000)
  obtain ⟨-, -, hearlier, -⟩ := cursor_dated (load_diskAt 18446744073709551615)
  rw [storeAt] at hdated hother hearlier
  refine ⟨fun situation => ?_, ?_, fun hsame => ?_, hearlier (by decide +kernel)⟩
  · rw [hrun situation, storeAt, hdate, String.append_assoc, String.append_assoc]
    rfl
  · rw [← hdate, hdated]
    exact hearly
  · have hcursors := hother 1700000001 hsame (by rw [hdate]; decide)
    revert hcursors
    decide

/-- The greatest cursor stands beside the last second before 1970. -/
theorem greatest_cursor_misdated :
    (∀ situation : Situation, runCommand {} situation .cursor (diskAt 18446744073709551615) =
      (.ok (toString (18446744073709551615 : UInt64) ++ " (1969-12-31T23:59:59+00:00)\n"),
        diskAt 18446744073709551615)) ∧
    (Instant.ofSeconds (-1)).WrittenAs "1969-12-31T23:59:59+00:00" ∧
    (Instant.ofSeconds (-1)).next = epoch ∧
    ¬Dated (18446744073709551615 : UInt64).toNat "1969-12-31T23:59:59+00:00" := by
  have hdate : beside 18446744073709551615 = "1969-12-31T23:59:59+00:00" := by decide +kernel
  have htext : (Instant.ofSeconds (-1)).text = "1969-12-31T23:59:59+00:00" := by decide +kernel
  refine ⟨fun situation => ?_, ?_, by decide, ?_⟩
  · rw [runCommand_cursor (load_diskAt _) situation, storeAt, hdate, String.append_assoc,
      String.append_assoc]
    rfl
  · rw [← htext]
    exact Instant.writtenAs_ofSeconds (-1)
  · rw [← hdate, dated_beside_iff]
    decide

end BoardRelay.CommandLine
