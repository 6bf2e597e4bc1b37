/-
  BoardRelay.Proofs.Text.Lowercase
  ────────────────────────────────
  What the lower case of a text owes to its characters and what to their
  neighbours.  Only a capital sigma looks around: it is lowered by what
  stands before and behind it, every other character by itself.

      lowercase (asciiLower s)          =  lowercase s
      lowercase (before ++ s ++ after)  =  … ++ lowercaseIn before.reverse after s ++ …

  So a part of a text keeps its own lower case, unless one of its capital
  sigmas can see past the end of the part (`Exposed`).
-/
import BoardRelay.Text.Blank
import BoardRelay.Text.Lowercase
import BoardRelay.Text.Search
import Mathlib.Data.List.TakeWhile

namespace BoardRelay.Text

/-! ## §1. The case of ASCII letters. -/

/-- A function that makes no difference between the two cases of an ASCII
letter does not notice that its argument has been lowered. -/
theorem apply_toLower {α : Type} (f : Char → α)
    (h : ∀ n < 26, f (Char.ofNat (97 + n)) = f (Char.ofNat (65 + n))) (c : Char) :
    f c.toLower = f c := by
  by_cases hupper : 65 ≤ c.toNat ∧ c.toNat ≤ 90
  · obtain ⟨n, hn⟩ := Nat.exists_eq_add_of_le hupper.1
    have hc : c = Char.ofNat (65 + n) := by rw [← hn, Char.ofNat_toNat]
    have hlt : n < 26 := by omega
    have hlower : ∀ n < 26, (Char.ofNat (65 + n)).toLower = Char.ofNat (97 + n) := by decide
    rw [hc, hlower n hlt]
    exact h n hlt
  · have hself : c.toLower = c := dif_neg (by simpa [UInt32.le_iff_toNat_le] using hupper)
    rw [hself]

/-- The case of a letter does not change that it has one. -/
theorem isCased_toLower (c : Char) : isCased c.toLower = isCased c :=
  apply_toLower isCased (by decide) c

/-- No ASCII letter is case-ignorable, in one pass over the ranges. -/
theorem isCaseIgnorable_letter {c : Char}
    (hc : (65 ≤ c.toNat ∧ c.toNat ≤ 90) ∨ (97 ≤ c.toNat ∧ c.toNat ≤ 122)) :
    isCaseIgnorable c = false := by
  have hranges : ∀ range ∈ caseIgnorableRanges,
      range.2 < 65 ∨ 122 < range.1 ∨ (90 < range.1 ∧ range.2 < 97) := by decide +kernel
  rw [isCaseIgnorable, inRanges, List.any_eq_false]
  intro range hrange
  have hapart := hranges range hrange
  simp only [Bool.and_eq_true, decide_eq_true_eq]
  omega

theorem isCaseIgnorable_toLower (c : Char) : isCaseIgnorable c.toLower = isCaseIgnorable c := by
  have hcodes : ∀ n < 26, (Char.ofNat (97 + n)).toNat = 97 + n ∧
      (Char.ofNat (65 + n)).toNat = 65 + n := by decide
  refine apply_toLower isCaseIgnorable ?_ c
  intro n hn
  obtain ⟨hlower, hupper⟩ := hcodes n hn
  rw [isCaseIgnorable_letter (by omega), isCaseIgnorable_letter (by omega)]

/-- A capital and its small letter have the same lower case. -/
theorem lowerChar_toLower (c : Char) : lowerChar c.toLower = lowerChar c :=
  apply_toLower lowerChar (by decide +kernel) c

/-- A character that is no letter is the lower case of itself alone. -/
theorem toLower_eq_iff (d : Char) (hd : d.isAlpha = false) (c : Char) :
    c.toLower = d ↔ c = d := by
  have hletter : ∀ n < 26,
      (Char.ofNat (97 + n)).isAlpha = true ∧ (Char.ofNat (65 + n)).isAlpha = true := by decide
  have hne : ∀ e : Char, e.isAlpha = true → ¬e = d := by
    rintro e he rfl
    exact Bool.false_ne_true (hd.symm.trans he)
  refine Eq.to_iff (apply_toLower (· = d) ?_ c)
  intro n hn
  exact propext (iff_of_false (hne _ (hletter n hn).1) (hne _ (hletter n hn).2))

theorem asciiLower_cons (c : Char) (s : List Char) :
    asciiLower (c :: s) = c.toLower :: asciiLower s := rfl

theorem isBlank_toLower (c : Char) : isBlank c.toLower = isBlank c :=
  apply_toLower isBlank (by decide) c

/-- Cutting a text at a separator does not depend on the case of letters. -/
theorem pieces_asciiLower {separator : Char} (h : separator.isAlpha = false) (s : List Char) :
    pieces separator (asciiLower s) = (pieces separator s).map asciiLower := by
  induction s with
  | nil => rfl
  | cons c s ih =>
    rw [asciiLower_cons, pieces, pieces, ih]
    simp only [toLower_eq_iff separator h]
    split
    · rfl
    · cases pieces separator s with
      | nil => rfl
      | cons first others => rfl

theorem trim_asciiLower (s : List Char) : trim (asciiLower s) = asciiLower (trim s) := by
  have hblank : isBlank ∘ Char.toLower = isBlank := funext isBlank_toLower
  simp only [trim, trimStart, trimEnd, asciiLower, List.dropWhile_map, hblank, ← List.map_reverse]

theorem meetsCased_asciiLower (s : List Char) : meetsCased (asciiLower s) = meetsCased s := by
  induction s with
  | nil => rfl
  | cons c s ih =>
    simp only [meetsCased, asciiLower_cons, List.dropWhile_cons, isCaseIgnorable_toLower] at ih ⊢
    cases isCaseIgnorable c with
    | true => exact ih
    | false => exact isCased_toLower c

theorem lowerSigma_asciiLower (before after : List Char) :
    lowerSigma (asciiLower before) (asciiLower after) = lowerSigma before after := by
  rw [lowerSigma, meetsCased_asciiLower, meetsCased_asciiLower, ← lowerSigma]

/-- Text in small letters has the same lower case, within any surroundings. -/
theorem lowercase_go_asciiLower (before s : List Char) :
    lowercase.go (asciiLower before) (asciiLower s) = lowercase.go before s := by
  -- Induction on the text; what is behind a character decides only over a sigma, which is no ASCII
  -- letter.
  induction s generalizing before with
  | nil => rfl
  | cons c s ih =>
    have hrest := ih (c :: before)
    rw [asciiLower_cons] at hrest
    rw [asciiLower_cons, lowercase.go, lowercase.go, hrest, lowerSigma_asciiLower,
      lowerChar_toLower]
    simp only [toLower_eq_iff '\u03a3' rfl]

/-- Lowering the ASCII letters first makes no difference. -/
theorem lowercase_asciiLower (s : List Char) : lowercase (asciiLower s) = lowercase s :=
  lowercase_go_asciiLower [] s

/-! ## §2. A part of a text. -/

/-- The lower case of a part of a text, by what stands before it, nearest
character first, and by what stands behind it. -/
def lowercaseIn (before after : List Char) : List Char → List Char
  | [] => []
  | c :: rest =>
    (if c = '\u03a3' then [lowerSigma before (rest ++ after)] else lowerChar c) ++
      lowercaseIn (c :: before) after rest

theorem lowercaseIn_nil (before s : List Char) :
    lowercaseIn before [] s = lowercase.go before s := by
  induction s generalizing before with
  | nil => rfl
  | cons c s ih => rw [lowercaseIn, lowercase.go, ih, List.append_nil]

/-- The lower case of two texts together is that of each in the surroundings of
the other. -/
theorem lowercaseIn_append (before after s t : List Char) :
    lowercaseIn before after (s ++ t) =
      lowercaseIn before (t ++ after) s ++ lowercaseIn (s.reverse ++ before) after t := by
  -- Induction on the first text; what was passed stands in reverse before the rest.
  induction s generalizing before with
  | nil => rfl
  | cons c s ih =>
    rw [List.cons_append, lowercaseIn, lowercaseIn, ih, List.append_assoc, List.append_assoc,
      List.reverse_cons, List.append_assoc]
    rfl

/-- The lower case of a text, part by part. -/
theorem lowercase_append (before s after : List Char) :
    lowercase (before ++ (s ++ after)) =
      lowercaseIn [] (s ++ after) before ++
        (lowercaseIn before.reverse after s ++
          lowercaseIn (s.reverse ++ before.reverse) [] after) := by
  rw [lowercase, ← lowercaseIn_nil, lowercaseIn_append, lowercaseIn_append, List.append_nil,
    List.append_nil, List.append_nil]

/-! ## §3. Capital sigmas at the ends of a part. -/

/-- Behind characters that are passed over, the next text decides. -/
theorem meetsCased_append (s t : List Char) :
    meetsCased (s ++ t) = if s.all isCaseIgnorable then meetsCased t else meetsCased s := by
  induction s with
  | nil => rfl
  | cons c s ih =>
    simp only [meetsCased, List.cons_append, List.dropWhile_cons, List.all_cons] at ih ⊢
    cases isCaseIgnorable c with
    | true => exact ih
    | false => rfl

theorem meetsCased_of_all {s : List Char} (h : s.all isCaseIgnorable = true) :
    meetsCased s = false := by
  have happend := meetsCased_append s []
  rwa [List.append_nil, if_pos h] at happend

/-- Whether the neighbours of a text take part in lowering one of its capital
sigmas: nothing stands between the sigma and one end but what is left aside,
and a letter beyond that end would change its form. -/
def Exposed (s : List Char) : Prop :=
  ∃ u v, s = u ++ '\u03a3' :: v ∧
    (u.all isCaseIgnorable = true ∧ meetsCased v = false ∨
      v.all isCaseIgnorable = true ∧ meetsCased u.reverse = true)

/-- **A sigma is final behind a letter with case and before none.** -/
theorem lowerSigma_eq_final_iff {before after : List Char} :
    lowerSigma before after = '\u03c2' ↔ meetsCased before = true ∧ meetsCased after = false := by
  rw [lowerSigma]
  cases meetsCased before <;> cases meetsCased after <;> decide

theorem lowerSigma_eq_medial_iff {before after : List Char} :
    lowerSigma before after = '\u03c3' ↔
      ¬(meetsCased before = true ∧ meetsCased after = false) := by
  rw [lowerSigma]
  cases meetsCased before <;> cases meetsCased after <;> decide

/-- What stands around a text does not reach a capital sigma that is not
exposed. -/
theorem lowerSigma_of_not_exposed {s u v : List Char} (h : ¬Exposed s)
    (hs : s = u ++ '\u03a3' :: v) (before after : List Char) :
    lowerSigma (u.reverse ++ before) (v ++ after) = lowerSigma u.reverse v := by
  have hfront : ¬(u.all isCaseIgnorable = true ∧ meetsCased v = false) := fun hu =>
    h ⟨u, v, hs, .inl hu⟩
  have hback : ¬(v.all isCaseIgnorable = true ∧ meetsCased u.reverse = true) := fun hv =>
    h ⟨u, v, hs, .inr hv⟩
  rw [lowerSigma, lowerSigma, meetsCased_append, meetsCased_append, List.all_reverse]
  by_cases hu : u.all isCaseIgnorable = true
  · -- a cased letter follows the sigma inside the text
    have hnext : meetsCased v = true := by simpa [hu] using hfront
    have hv : ¬v.all isCaseIgnorable = true := fun hv => by
      rw [meetsCased_of_all hv] at hnext
      exact Bool.false_ne_true hnext
    simp [hv, hnext]
  · by_cases hv : v.all isCaseIgnorable = true
    · -- no cased letter comes before it
      have hlast : meetsCased u.reverse = false := by simpa [hv] using hback
      simp [hu, hlast]
    · rw [if_neg hu, if_neg hv]

/-- Two surroundings in which every capital sigma is lowered alike. -/
theorem lowercaseIn_congr {before after before' after' s : List Char}
    (h : ∀ u v, s = u ++ '\u03a3' :: v →
      lowerSigma (u.reverse ++ before) (v ++ after) =
        lowerSigma (u.reverse ++ before') (v ++ after')) :
    lowercaseIn before after s = lowercaseIn before' after' s := by
  -- Induction on the text, which the characters before it grow by; only a sigma looks at them.
  induction s generalizing before before' with
  | nil => rfl
  | cons c s ih =>
    have hrest : lowercaseIn (c :: before) after s = lowercaseIn (c :: before') after' s := by
      apply ih
      intro u v hs
      have hsigma := h (c :: u) v (by rw [hs]; rfl)
      simpa using hsigma
    rw [lowercaseIn, lowercaseIn, hrest]
    by_cases hc : c = '\u03a3'
    · subst hc
      have hsigma : lowerSigma before (s ++ after) = lowerSigma before' (s ++ after') :=
        h [] s rfl
      rw [hsigma]
    · rw [if_neg hc, if_neg hc]

/-! ## §4. Counting the two forms. -/

theorem count_singleton_le {x y z : Char} (h : y = x → z = x) :
    List.count x [y] ≤ List.count x [z] := by
  by_cases hy : y = x
  · rw [hy, h hy]
  · simp [List.count_singleton, hy]

/-- If a form that some capital sigma takes in one surrounding it also takes
in another, the form is at least as frequent there. -/
theorem count_lowercaseIn_le {x : Char} {before after before' after' s : List Char}
    (h : ∀ u v, s = u ++ '\u03a3' :: v → lowerSigma (u.reverse ++ before) (v ++ after) = x →
      lowerSigma (u.reverse ++ before') (v ++ after') = x) :
    (lowercaseIn before after s).count x ≤ (lowercaseIn before' after' s).count x := by
  -- Induction as for the equality: a character other than a sigma lowers to the same text on both
  -- sides.
  induction s generalizing before before' with
  | nil => exact Nat.le_refl _
  | cons c s ih =>
    have hrest : (lowercaseIn (c :: before) after s).count x ≤
        (lowercaseIn (c :: before') after' s).count x := by
      apply ih
      intro u v hs
      have hsigma := h (c :: u) v (by rw [hs]; rfl)
      simpa using hsigma
    rw [lowercaseIn, lowercaseIn, List.count_append, List.count_append]
    refine Nat.add_le_add ?_ hrest
    by_cases hc : c = '\u03a3'
    · subst hc
      exact count_singleton_le (h [] s rfl)
    · rw [if_neg hc, if_neg hc]

/-- If moreover one sigma takes it only in the other, the form is more
frequent there. -/
theorem count_lowercaseIn_lt {x : Char} {before after before' after' u v : List Char}
    (h : ∀ u' v', u ++ '\u03a3' :: v = u' ++ '\u03a3' :: v' →
      lowerSigma (u'.reverse ++ before) (v' ++ after) = x →
      lowerSigma (u'.reverse ++ before') (v' ++ after') = x)
    (hnot : lowerSigma (u.reverse ++ before) (v ++ after) ≠ x)
    (hthere : lowerSigma (u.reverse ++ before') (v ++ after') = x) :
    (lowercaseIn before after (u ++ '\u03a3' :: v)).count x <
      (lowercaseIn before' after' (u ++ '\u03a3' :: v)).count x := by
  -- the text before the sigma and the text behind it count no more on the left
  have hu : (lowercaseIn before ('\u03a3' :: v ++ after) u).count x ≤
      (lowercaseIn before' ('\u03a3' :: v ++ after') u).count x := by
    apply count_lowercaseIn_le
    intro u' w hsplit
    have hsigma := h u' (w ++ '\u03a3' :: v) (by rw [hsplit]; simp)
    simpa using hsigma
  have hv : (lowercaseIn ('\u03a3' :: (u.reverse ++ before)) after v).count x ≤
      (lowercaseIn ('\u03a3' :: (u.reverse ++ before')) after' v).count x := by
    apply count_lowercaseIn_le
    intro w v' hsplit
    have hsigma := h (u ++ '\u03a3' :: w) v' (by rw [hsplit]; simp)
    simpa using hsigma
  -- and the sigma itself counts on the right only
  have hone : [lowerSigma (u.reverse ++ before) (v ++ after)].count x = 0 := by
    simpa [List.count_singleton] using hnot
  have hother : [lowerSigma (u.reverse ++ before') (v ++ after')].count x = 1 := by
    rw [hthere, List.count_singleton_self]
  rw [lowercaseIn_append, lowercaseIn_append, lowercaseIn, lowercaseIn, if_pos rfl, if_pos rfl]
  simp only [List.count_append, hone, hother]
  omega

theorem meetsCased_append_letter (s : List Char) :
    meetsCased (s ++ ['a']) = (s.all isCaseIgnorable || meetsCased s) := by
  have hletter : meetsCased ['a'] = true := by decide +kernel
  rw [meetsCased_append, hletter]
  cases s.all isCaseIgnorable <;> simp

/-- A text with an exposed sigma has fewer sigmas of one form when it stands
beside a letter. -/
theorem Exposed.exists_count_lt {s : List Char} (h : Exposed s) :
    ∃ x before after,
      (lowercase (before ++ (s ++ after))).count x < (lowercase s).count x := by
  have halone : lowercase s = lowercaseIn [] [] s := (lowercaseIn_nil [] s).symm
  obtain ⟨u, v, rfl, ⟨hu, hv⟩ | ⟨hv, hu⟩⟩ := h
  · -- A letter in front turns the medial form into the final one.
    refine ⟨'\u03c3', ['a'], [], ?_⟩
    have hletter : (lowercaseIn [] (u ++ '\u03a3' :: v ++ []) ['a']).count '\u03c3' = 0 := by rfl
    rw [lowercase_append, halone, List.count_append, List.count_append, hletter, Nat.zero_add]
    apply count_lowercaseIn_lt
    · intro u' v' _
      simp only [lowerSigma_eq_medial_iff, List.reverse_singleton, meetsCased_append_letter,
        List.append_nil]
      intro hmedial hfinal
      exact hmedial ⟨by rw [hfinal.1, Bool.or_true], hfinal.2⟩
    · simp only [Ne, lowerSigma_eq_medial_iff, List.reverse_singleton, meetsCased_append_letter,
        List.append_nil, List.all_reverse, hu, hv]
      simp
    · rw [lowerSigma_eq_medial_iff, List.append_nil, meetsCased_of_all (by simpa using hu)]
      simp
  · -- A letter behind turns the final form into the medial one.
    refine ⟨'\u03c2', [], ['a'], ?_⟩
    have hletter : (lowercaseIn ((u ++ '\u03a3' :: v).reverse ++ [].reverse) [] ['a']).count
        '\u03c2' = 0 := by rfl
    rw [lowercase_append, halone, List.count_append, List.count_append, hletter]
    simp only [lowercaseIn, List.count_nil, Nat.zero_add, Nat.add_zero, List.reverse_nil]
    apply count_lowercaseIn_lt
    · intro u' v' _
      simp only [lowerSigma_eq_final_iff, meetsCased_append_letter, List.append_nil,
        Bool.or_eq_false_iff]
      exact fun hfinal => ⟨hfinal.1, hfinal.2.2⟩
    · simp [lowerSigma_eq_final_iff, meetsCased_append_letter, hv]
    · rw [lowerSigma_eq_final_iff, List.append_nil, List.append_nil]
      exact ⟨hu, meetsCased_of_all hv⟩

/-- A text is lowered alike wherever it stands if and only if none of its
capital sigmas is exposed. -/
theorem lowercase_infix_iff (s : List Char) :
    (∀ before after, lowercase s <:+: lowercase (before ++ (s ++ after))) ↔ ¬Exposed s := by
  constructor
  · intro hin hexposed
    -- a sigma lowered otherwise in this text leaves one letter less of its kind
    obtain ⟨x, before, after, hlt⟩ := hexposed.exists_count_lt
    exact Nat.not_le_of_lt hlt ((hin before after).sublist.count_le x)
  · intro h before after
    -- no sigma looks beyond the text, so it lowers here as it does alone
    have hself : lowercaseIn before.reverse after s = lowercase s := by
      rw [lowercase, ← lowercaseIn_nil]
      apply lowercaseIn_congr
      intro u v hs
      rw [lowerSigma_of_not_exposed h hs, List.append_nil, List.append_nil]
    rw [lowercase_append, hself]
    exact ⟨_, _, List.append_assoc _ _ _⟩

end BoardRelay.Text
