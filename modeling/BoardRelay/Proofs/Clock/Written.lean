/-
  BoardRelay.Proofs.Clock.Written
  ────────────────────────────────
  Instants as texts, in the form of RFC 3339 in universal time:

      year - month - day T hour : minute : second + 00:00

  Every number has two digits but the year, which has four, or a sign and at least
  four where four are not enough.  The text of an instant has this form
  (`Instant.writtenAs_text`), and no text is that of two instants
  (`Instant.WrittenAs.unique`).
-/
import BoardRelay.Proofs.Clock.Calendar

namespace BoardRelay.Clock

/-! ## §1. Digits. -/

/-- Whether decimal digits, so many of them, write a number. -/
structure Writes (width value : Nat) (digits : List Char) : Prop where
  length : digits.length = width
  isDigit : ∀ c ∈ digits, c.isDigit = true
  value : Nat.ofDigitChars 10 digits 0 = value

/-- A number with zeros in front. -/
theorem writes_padded {width value : Nat} (h : (Nat.toDigits 10 value).length ≤ width) :
    Writes width value (padded width value).toList := by
  rw [padded, String.toList_ofList]
  refine ⟨?_, fun c hc => ?_, ?_⟩
  · rw [List.length_append, List.length_replicate]
    omega
  · rcases List.mem_append.mp hc with hzero | hdigit
    · rw [List.eq_of_mem_replicate hzero]
      rfl
    · exact Nat.isDigit_of_mem_toDigits (by decide) (by decide) hdigit
  · rw [Nat.ofDigitChars_append, Nat.ofDigitChars_replicate_zero, Nat.mul_zero,
      Nat.ofDigitChars_ten_toDigits]

/-- A number that is small enough is written in just so many digits. -/
theorem writes_padded_of_lt {width value : Nat} (hwidth : 0 < width) (h : value < 10 ^ width) :
    Writes width value (padded width value).toList :=
  writes_padded ((Nat.length_toDigits_le_iff (by decide) hwidth).mpr h)

theorem padded_of_le {width value : Nat} (h : width ≤ (Nat.toDigits 10 value).length) :
    padded width value = padded (Nat.toDigits 10 value).length value := by
  rw [padded, padded, Nat.sub_eq_zero_of_le h, Nat.sub_self]

/-! ## §2. Years. -/

/-- Whether a text writes a year: in four digits, or with a sign. -/
inductive YearWritten : Int → List Char → Prop
  | four {year : Nat} {digits : List Char} (h : Writes 4 year digits) : YearWritten year digits
  | before {year width : Nat} {digits : List Char} (hwidth : 4 ≤ width) (hyear : 0 < year)
    (h : Writes width year digits) : YearWritten (-year) ('-' :: digits)
  | beyond {year width : Nat} {digits : List Char} (hwidth : 4 ≤ width) (hyear : 9999 < year)
    (h : Writes width year digits) : YearWritten year ('+' :: digits)

/-- **Every year is written in the form of years**, those before 0 and beyond
9999 with a sign. -/
theorem yearWritten_yearText (year : Int) : YearWritten year (yearText year).toList := by
  -- behind a sign stand the digits of the number, at least four of them
  have hsigned : ∀ value, ∃ width, 4 ≤ width ∧ Writes width value (padded 4 value).toList := by
    intro value
    by_cases hfour : (Nat.toDigits 10 value).length ≤ 4
    · exact ⟨4, Nat.le_refl 4, writes_padded hfour⟩
    · have hlong : 4 ≤ (Nat.toDigits 10 value).length := by omega
      refine ⟨_, hlong, ?_⟩
      rw [padded_of_le hlong]
      exact writes_padded (Nat.le_refl _)
  rw [yearText]
  by_cases hfour : 0 ≤ year ∧ year ≤ 9999
  · obtain ⟨count, rfl⟩ := Int.eq_ofNat_of_zero_le hfour.1
    rw [if_pos hfour, Int.toNat_natCast]
    exact .four (writes_padded_of_lt (by decide) (by omega))
  · obtain ⟨width, hwidth, hdigits⟩ := hsigned year.natAbs
    rw [if_neg hfour, String.toList_append]
    by_cases hneg : year < 0
    · rw [if_pos hneg]
      have hyear : year = -(year.natAbs : Int) := by omega
      have hwritten := YearWritten.before hwidth (by omega) hdigits
      rw [← hyear] at hwritten
      exact hwritten
    · rw [if_neg hneg]
      have hyear : year = (year.natAbs : Int) := by omega
      have hwritten := YearWritten.beyond hwidth (by omega) hdigits
      rw [← hyear] at hwritten
      exact hwritten

theorem Writes.unique {width width' value value' : Nat} {digits : List Char}
    (h : Writes width value digits) (h' : Writes width' value' digits) : value = value' :=
  h.value.symm.trans h'.value

/-- Where so many digits end a text, they are what stands behind the last mark. -/
theorem Writes.of_append {width value value' : Nat} {mark : Char}
    {front front' digits digits' : List Char} (h : Writes width value digits)
    (h' : Writes width value' digits') (heq : front ++ mark :: digits = front' ++ mark :: digits') :
    front = front' ∧ value = value' := by
  -- both ends have the mark and so many digits, so the lists part at the same place
  have hlength : (mark :: digits).length = (mark :: digits').length := by
    rw [List.length_cons, List.length_cons, h.length, h'.length]
  obtain ⟨hfront, hback⟩ := List.append_inj' heq hlength
  cases hback
  exact ⟨hfront, h.unique h'⟩

/-- No text is that of two years. -/
theorem YearWritten.unique {year year' : Int} {text : List Char} (h : YearWritten year text)
    (h' : YearWritten year' text) : year = year' := by
  -- a sign is no digit, and the two signs are not the same
  cases h with
  | four h =>
    cases h' with
    | four h' => rw [h.unique h']
    | before hwidth hyear h' => cases h.isDigit '-' List.mem_cons_self
    | beyond hwidth hyear h' => cases h.isDigit '+' List.mem_cons_self
  | before hwidth hyear h =>
    cases h' with
    | four h' => cases h'.isDigit '-' List.mem_cons_self
    | before hwidth hyear h' => rw [h.unique h']
  | beyond hwidth hyear h =>
    cases h' with
    | four h' => cases h'.isDigit '+' List.mem_cons_self
    | beyond hwidth hyear h' => rw [h.unique h']

/-! ## §3. Instants. -/

/-- Whether a text is the date and time of an instant. -/
def Instant.WrittenAs (instant : Instant) (text : String) : Prop :=
  ∃ year month day hour minute second : List Char,
    text.toList = year ++ '-' :: month ++ '-' :: day ++ 'T' :: hour ++ ':' :: minute ++
      ':' :: second ++ "+00:00".toList ∧
    YearWritten instant.date.year year ∧ Writes 2 instant.date.month month ∧
    Writes 2 instant.date.day day ∧ Writes 2 instant.hour hour ∧ Writes 2 instant.minute minute ∧
    Writes 2 instant.second second

/-- The text of an instant has the form of a date and time, where its parts
have two digits. -/
theorem Instant.writtenAs_text {instant : Instant} (hmonth : instant.date.month < 100)
    (hday : instant.date.day < 100) (hhour : instant.hour < 100) (hminute : instant.minute < 100)
    (hsecond : instant.second < 100) : instant.WrittenAs instant.text := by
  refine ⟨_, _, _, _, _, _, ?_, yearWritten_yearText _, writes_padded_of_lt (by decide) hmonth,
    writes_padded_of_lt (by decide) hday, writes_padded_of_lt (by decide) hhour,
    writes_padded_of_lt (by decide) hminute, writes_padded_of_lt (by decide) hsecond⟩
  simp [Instant.text]

/-- No text is that of two instants: all its parts but the year have their place
from the end. -/
theorem Instant.WrittenAs.unique {instant instant' : Instant} {text : String}
    (h : instant.WrittenAs text) (h' : instant'.WrittenAs text) : instant = instant' := by
  obtain ⟨year, month, day, hour, minute, second, htext, hyear, hmonth, hday, hhour, hminute,
    hsecond⟩ := h
  obtain ⟨year', month', day', hour', minute', second', htext', hyear', hmonth', hday', hhour',
    hminute', hsecond'⟩ := h'
  -- the parts are taken off from the end, each by its number of digits; the year is what is left
  have hparts := List.append_cancel_right (htext.symm.trans htext')
  obtain ⟨hparts, hseconds⟩ := hsecond.of_append hsecond' hparts
  obtain ⟨hparts, hminutes⟩ := hminute.of_append hminute' hparts
  obtain ⟨hparts, hhours⟩ := hhour.of_append hhour' hparts
  obtain ⟨hparts, hdays⟩ := hday.of_append hday' hparts
  obtain ⟨hparts, hmonths⟩ := hmonth.of_append hmonth' hparts
  rw [hparts] at hyear
  have hyears := hyear.unique hyear'
  obtain ⟨⟨_, _, _⟩, _, _, _⟩ := instant
  obtain ⟨⟨_, _, _⟩, _, _, _⟩ := instant'
  dsimp only at hyears hmonths hdays hhours hminutes hseconds
  rw [hyears, hmonths, hdays, hhours, hminutes, hseconds]

/-- A date and time in universal time ends in the zero of the offset. -/
theorem Instant.WrittenAs.getLast? {instant : Instant} {text : String}
    (h : instant.WrittenAs text) : text.toList.getLast? = some '0' := by
  obtain ⟨year, month, day, hour, minute, second, htext, -⟩ := h
  rw [htext, List.getLast?_append]
  rfl

/-- The instant of a second has such parts, so its text has the form. -/
theorem Instant.writtenAs_ofSeconds (seconds : Int) :
    (Instant.ofSeconds seconds).WrittenAs (Instant.ofSeconds seconds).text := by
  obtain ⟨hhour, hminute, hsecond⟩ := Instant.ofSeconds_bounds seconds
  obtain ⟨-, hmonth, -, hday⟩ := Date.ofDays_bounds (Int.fdiv seconds 86400)
  rw [← Instant.date_ofSeconds] at hmonth hday
  exact Instant.writtenAs_text (by omega) (by omega) (by omega) (by omega) (by omega)

/-- What is written of a second. -/
theorem textOfSeconds?_eq_some_iff {seconds : Int} {text : String} :
    textOfSeconds? seconds = some text ↔
      (-8334601228800 ≤ seconds ∧ seconds ≤ 8210266876799) ∧
        text = (Instant.ofSeconds seconds).text := by
  rw [← isWritable_iff, textOfSeconds?]
  cases isWritable (Instant.ofSeconds seconds).date.year with
  | true => simp [eq_comm]
  | false => simp

end BoardRelay.Clock
