/-
  BoardRelay.Proofs.Text.Blank
  ────────────────────────────────
  Trimming takes off the blanks at both ends of a text and nothing else.
-/
import BoardRelay.Text.Blank
import Mathlib.Data.List.DropRight

namespace BoardRelay.Text

theorem toNat_lt_of_isAlphanum {c : Char} (h : c.isAlphanum = true) : c.toNat < 123 := by
  have hranges : (decide (c.val ≥ 'A'.val ∧ c.val ≤ 'Z'.val) ||
      (decide (c.val ≥ 'a'.val) && decide (c.val ≤ 'z'.val)) ||
      (decide (c.val ≥ '0'.val) && decide (c.val ≤ '9'.val))) = true := h
  simp only [Bool.or_eq_true, Bool.and_eq_true, decide_eq_true_eq] at hranges
  rcases hranges with (⟨-, hle⟩ | ⟨-, hle⟩) | ⟨-, hle⟩ <;>
    exact Nat.lt_of_le_of_lt hle (by decide)

/-- No letter or digit is a blank. -/
theorem isBlank_of_isAlphanum {c : Char} (h : c.isAlphanum = true) : isBlank c = false := by
  -- letters and digits are among the first 123 codes, so they are looked through one by one
  have hascii : ∀ n < 123, (Char.ofNat n).isAlphanum = true → isBlank (Char.ofNat n) = false := by
    decide
  have hc := hascii c.toNat (toNat_lt_of_isAlphanum h)
  rw [Char.ofNat_toNat] at hc
  exact hc h

/-- A text with a blank at neither end. -/
structure Trimmed (s : List Char) : Prop where
  head : ∀ c ∈ s.head?, isBlank c = false
  last : ∀ c ∈ s.getLast?, isBlank c = false

theorem trimmed_of_not_blank {s : List Char} (h : ∀ c ∈ s, isBlank c = false) : Trimmed s where
  head c hc := h c (List.mem_of_mem_head? hc)
  last c hc := h c (List.mem_of_mem_getLast? hc)

/-- Only the ends of a text count. -/
theorem Trimmed.enclose {s t : List Char} (hs : Trimmed s) (ht : Trimmed t) (hsne : s ≠ [])
    (htne : t ≠ []) (middle : List Char) : Trimmed (s ++ (middle ++ t)) where
  head := by
    rw [List.head?_append_of_ne_nil s hsne]
    exact hs.head
  last := by
    rw [← List.append_assoc, List.getLast?_append_of_ne_nil _ htne]
    exact ht.last

theorem Trimmed.of_append {s t : List Char} (h : Trimmed (s ++ t))
    (hlast : ∀ c ∈ s.getLast?, isBlank c = false) : Trimmed s where
  head c hc := h.head c (List.mem_head?_append_of_mem_head? hc)
  last := hlast

theorem dropWhile_append_blanks {before s : List Char} (hbefore : ∀ c ∈ before, isBlank c = true)
    (hs : ∀ c ∈ s.head?, isBlank c = false) : (before ++ s).dropWhile isBlank = s := by
  rw [List.dropWhile_append_of_pos hbefore]
  cases s with
  | nil => rfl
  | cons c s => rw [List.dropWhile_cons_of_neg (by simp [hs c rfl])]

/-- What is left of a text without the blanks in front does not begin with one. -/
theorem head_dropWhile_blank (s : List Char) :
    ∀ c ∈ (s.dropWhile isBlank).head?, isBlank c = false := by
  intro c hc
  have hhead : (s.dropWhile isBlank).head? = some c := hc
  have hnot := List.head?_dropWhile_not isBlank s
  rw [hhead] at hnot
  exact hnot

theorem trimEnd_append {s after : List Char} (hs : ∀ c ∈ s.getLast?, isBlank c = false)
    (hafter : ∀ c ∈ after, isBlank c = true) : trimEnd (s ++ after) = s := by
  rw [trimEnd, List.reverse_append, dropWhile_append_blanks, List.reverse_reverse]
  · exact fun c hc => hafter c (List.mem_reverse.mp hc)
  · rwa [List.head?_reverse]

/-- What trimming leaves of a text between blanks. -/
theorem trim_append {before s after : List Char} (hbefore : ∀ c ∈ before, isBlank c = true)
    (hs : Trimmed s) (hne : s ≠ []) (hafter : ∀ c ∈ after, isBlank c = true) :
    trim (before ++ (s ++ after)) = s := by
  rw [trim, trimStart, dropWhile_append_blanks hbefore, trimEnd_append hs.last hafter]
  rw [List.head?_append_of_ne_nil s hne]
  exact hs.head

/-- What trimming takes off. -/
theorem exists_trim (s : List Char) : ∃ before after, s = before ++ (trim s ++ after) ∧
    (∀ c ∈ before, isBlank c = true) ∧ ∀ c ∈ after, isBlank c = true := by
  refine ⟨s.takeWhile isBlank, (s.dropWhile isBlank).rtakeWhile isBlank, ?_, ?_, ?_⟩
  · show s = s.takeWhile isBlank ++
      ((s.dropWhile isBlank).rdropWhile isBlank ++ (s.dropWhile isBlank).rtakeWhile isBlank)
    rw [List.rdropWhile_append_rtakeWhile, List.takeWhile_append_dropWhile]
  · exact fun c hc => List.mem_takeWhile_imp hc
  · exact fun c hc => List.mem_rtakeWhile_imp hc

theorem trim_eq_nil_iff {s : List Char} : trim s = [] ↔ allBlank s = true := by
  rw [allBlank, List.all_eq_true]
  constructor
  · -- trimming takes nothing but blanks away
    intro hnil c hc
    obtain ⟨before, after, hs, hbefore, hafter⟩ := exists_trim s
    rw [hs, hnil, List.nil_append, List.mem_append] at hc
    exact hc.elim (hbefore c) (hafter c)
  · intro hblank
    have hstart : trimStart s = [] := List.dropWhile_eq_nil_iff.mpr hblank
    rw [trim, hstart]
    rfl

/-- Blanks behind a text are where its last other character ends. -/
theorem append_blanks_inj {s s' after after' : List Char}
    (hs : ∀ c ∈ s.getLast?, isBlank c = false) (hs' : ∀ c ∈ s'.getLast?, isBlank c = false)
    (hafter : ∀ c ∈ after, isBlank c = true) (hafter' : ∀ c ∈ after', isBlank c = true)
    (h : s ++ after = s' ++ after') : s = s' ∧ after = after' := by
  have heq : s = s' := by
    rw [← trimEnd_append hs hafter, h, trimEnd_append hs' hafter']
  rw [heq] at h
  exact ⟨heq, List.append_cancel_left h⟩

/-- **A text that was trimmed has no blanks around it.** -/
theorem trimmed_trim (s : List Char) : Trimmed (trim s) where
  head c hc := by
    -- what is left of the end of a text begins as the text does
    obtain ⟨rest, hrest⟩ : (s.dropWhile isBlank).rdropWhile isBlank <+: s.dropWhile isBlank :=
      List.rdropWhile_prefix _ _
    have hhead : (trim s).head? = some c := hc
    apply head_dropWhile_blank s c
    rw [← hrest]
    exact List.mem_head?_append_of_mem_head? hhead
  last c hc := by
    rw [trim, trimEnd, List.getLast?_reverse] at hc
    exact head_dropWhile_blank (trimStart s).reverse c hc

/-- Trimming takes off whatever blanks are at the ends. -/
theorem trim_enclosed {before after : List Char} (hbefore : ∀ c ∈ before, isBlank c = true)
    (hafter : ∀ c ∈ after, isBlank c = true) (s : List Char) :
    trim (before ++ (s ++ after)) = trim s := by
  obtain ⟨front, back, hs, hfront, hback⟩ := exists_trim s
  -- a text of blanks has no front and back to speak of
  by_cases hnil : trim s = []
  · rw [hnil, trim_eq_nil_iff, allBlank, List.all_eq_true]
    have hblank := List.all_eq_true.mp (trim_eq_nil_iff.mp hnil)
    intro c hc
    rw [List.mem_append, List.mem_append] at hc
    rcases hc with hc | hc | hc
    · exact hbefore c hc
    · exact hblank c hc
    · exact hafter c hc
  · have henclosed : before ++ (s ++ after) = (before ++ front) ++ (trim s ++ (back ++ after)) := by
      conv_lhs => rw [hs]
      simp only [List.append_assoc]
    rw [henclosed]
    refine trim_append ?_ (trimmed_trim s) hnil ?_
    · exact fun c hc => (List.mem_append.mp hc).elim (hbefore c) (hfront c)
    · exact fun c hc => (List.mem_append.mp hc).elim (hback c) (hafter c)

/-- Blanks in front make no difference to what is trimmed. -/
theorem trim_blanks_append {before : List Char} (h : allBlank before = true) (s : List Char) :
    trim (before ++ s) = trim s := by
  have htrim := trim_enclosed (List.all_eq_true.mp h) (List.forall_mem_nil _) s
  rwa [List.append_nil] at htrim

theorem trim_append_blanks {after : List Char} (h : allBlank after = true) (s : List Char) :
    trim (s ++ after) = trim s :=
  trim_enclosed (List.forall_mem_nil _) (List.all_eq_true.mp h) s

end BoardRelay.Text
