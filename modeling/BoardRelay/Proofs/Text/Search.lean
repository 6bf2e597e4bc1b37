/-
  BoardRelay.Proofs.Text.Search
  ────────────────────────────────
  What the searches over a text find: an occurrence, the first or the last
  place of a character, the pieces between separators.
-/
import BoardRelay.Text.Search
import Mathlib.Data.List.Basic

namespace BoardRelay.Text

/-- A part occurs in a text that contains it. -/
theorem occurs_iff {part s : List Char} : occurs part s = true ↔ part <:+: s := by
  induction s with
  | nil => simp [occurs]
  | cons c s ih =>
    rw [occurs, Bool.or_eq_true, List.isPrefixOf_iff_prefix, ih, List.infix_cons_iff]

/-! ## §1. The first and the last place of a character. -/

/-- A text without the separator is not cut. -/
theorem cut?_eq_none_iff {separator : Char} {s : List Char} :
    cut? separator s = none ↔ separator ∉ s := by
  induction s with
  | nil => simp [cut?]
  | cons c s ih =>
    by_cases hc : c = separator
    · simp [cut?, hc]
    · simp [cut?, hc, ih, Ne.symm hc]

/-- A text is cut at the first separator. -/
theorem cut?_eq_some_iff {separator : Char} {s before after : List Char} :
    cut? separator s = some (before, after) ↔
      s = before ++ separator :: after ∧ separator ∉ before := by
  -- Induction on the text, whose first character is the separator or stands before it.
  induction s generalizing before with
  | nil => simp [cut?]
  | cons c rest ih =>
    by_cases hc : c = separator
    · subst hc
      cases before with
      | nil => simp [cut?]
      | cons d before => simp +contextual [cut?]
    · simp only [cut?, if_neg hc, Option.map_eq_some_iff, Prod.mk.injEq]
      constructor
      · rintro ⟨⟨b, a⟩, hcut, rfl, rfl⟩
        obtain ⟨rfl, hnot⟩ := ih.mp hcut
        exact ⟨rfl, by simp [hnot, Ne.symm hc]⟩
      · rintro ⟨heq, hnot⟩
        cases before with
        | nil =>
          rw [List.nil_append, List.cons.injEq] at heq
          exact absurd heq.1 hc
        | cons d before =>
          rw [List.cons_append, List.cons.injEq] at heq
          simp only [List.mem_cons, not_or] at hnot
          exact ⟨(before, after), ih.mpr ⟨heq.2, hnot.2⟩, by rw [heq.1], rfl⟩

theorem afterLast?_eq_none_iff {c : Char} {s : List Char} : afterLast? [c] s = none ↔ c ∉ s := by
  induction s with
  | nil => simp [afterLast?]
  | cons d s ih =>
    rw [afterLast?]
    -- the search answers from the right, so the tail is asked first
    cases hlater : afterLast? [c] s with
    | some rest =>
      have hmem : c ∈ s := by
        by_contra hnot
        rw [ih.mpr hnot] at hlater
        cases hlater
      simp [hmem]
    | none =>
      have hnot : c ∉ s := ih.mp hlater
      by_cases hc : c = d
      · simp [hc]
      · simp [hc, hnot]

theorem afterLast?_append_cons {c : Char} {front rest : List Char} (h : c ∉ rest) :
    afterLast? [c] (front ++ c :: rest) = some rest := by
  induction front with
  | nil =>
    rw [List.nil_append, afterLast?, afterLast?_eq_none_iff.mpr h]
    simp
  | cons d front ih =>
    rw [List.cons_append, afterLast?, ih]
    rfl

/-- What follows the last of some character has none of it. -/
theorem afterLast?_eq_some_iff {c : Char} {s rest : List Char} :
    afterLast? [c] s = some rest ↔ ∃ front, s = front ++ c :: rest ∧ c ∉ rest := by
  constructor
  · intro h
    induction s with
    | nil => simp [afterLast?] at h
    | cons d s ih =>
      rw [afterLast?] at h
      -- found further on, or not: then this character has to be the one
      cases hlater : afterLast? [c] s with
      | some later =>
        rw [hlater] at h
        obtain ⟨front, rfl, hnot⟩ := ih (hlater.trans h)
        exact ⟨d :: front, rfl, hnot⟩
      | none =>
        have hnot : c ∉ s := afterLast?_eq_none_iff.mp hlater
        rw [hlater] at h
        by_cases hc : c = d
        · obtain rfl : s = rest := by simpa [hc] using h
          exact ⟨[], by rw [hc]; rfl, hnot⟩
        · simp [hc] at h
  · rintro ⟨front, rfl, hnot⟩
    exact afterLast?_append_cons hnot

/-! ## §2. The pieces between separators. -/

theorem pieces_ne_nil (separator : Char) (s : List Char) : pieces separator s ≠ [] := by
  cases s with
  | nil => simp [pieces]
  | cons c s =>
    rw [pieces]
    split
    · simp
    · split <;> simp

/-- The pieces with a separator before each make the text again. -/
theorem flatMap_pieces (separator : Char) (s : List Char) :
    (pieces separator s).flatMap (separator :: ·) = separator :: s := by
  induction s with
  | nil => rfl
  | cons c s ih =>
    rw [pieces]
    split
    · next hc => rw [List.flatMap_cons, ih, hc]; rfl
    · -- a character that does not separate belongs to the first piece of what follows
      cases hpieces : pieces separator s with
      | nil => exact absurd hpieces (pieces_ne_nil separator s)
      | cons first others =>
        rw [hpieces, List.flatMap_cons, List.cons_append, List.cons.injEq] at ih
        show (separator :: c :: first) ++ others.flatMap (separator :: ·) = _
        rw [List.cons_append, List.cons_append, ih.2]

/-- A text without the separator is one piece. -/
theorem pieces_eq_singleton {separator : Char} {word : List Char} (h : separator ∉ word) :
    pieces separator word = [word] := by
  induction word with
  | nil => rfl
  | cons c word ih =>
    rw [List.mem_cons, not_or] at h
    rw [pieces, if_neg (Ne.symm h.1), ih h.2]

/-- The first separator ends the first piece. -/
theorem pieces_append_cons {separator : Char} {word : List Char} (h : separator ∉ word)
    (rest : List Char) :
    pieces separator (word ++ separator :: rest) = word :: pieces separator rest := by
  induction word with
  | nil => rw [List.nil_append, pieces, if_pos rfl]
  | cons c word ih =>
    rw [List.mem_cons, not_or] at h
    rw [List.cons_append, pieces, if_neg (Ne.symm h.1), ih h.2]

/-- Words without separators are the pieces of the text that they make. -/
theorem pieces_flatMap {separator : Char} {word : List Char} {words : List (List Char)}
    (hword : separator ∉ word) (hwords : ∀ other ∈ words, separator ∉ other) :
    pieces separator (word ++ words.flatMap (separator :: ·)) = word :: words := by
  induction words generalizing word with
  | nil => rw [List.flatMap_nil, List.append_nil, pieces_eq_singleton hword]
  | cons next words ih =>
    rw [List.forall_mem_cons] at hwords
    rw [List.flatMap_cons, List.cons_append, pieces_append_cons hword, ih hwords.1 hwords.2]

/-- A separator divides the pieces before it from those behind it. -/
theorem pieces_append (separator : Char) (s t : List Char) :
    pieces separator (s ++ separator :: t) = pieces separator s ++ pieces separator t := by
  induction s with
  | nil => exact if_pos rfl
  | cons c s ih =>
    rw [List.cons_append, pieces, pieces, ih]
    split
    · rfl
    · cases hpieces : pieces separator s with
      | nil => exact absurd hpieces (pieces_ne_nil separator s)
      | cons first others => rfl

theorem separator_not_mem_of_mem_pieces {separator : Char} {piece s : List Char}
    (h : piece ∈ pieces separator s) : separator ∉ piece := by
  -- Induction on the text: a separator begins a new piece, any other character joins the first.
  induction s generalizing piece with
  | nil =>
    rw [List.mem_singleton.mp h]
    exact List.not_mem_nil
  | cons c s ih =>
    rw [pieces] at h
    split at h
    · rcases List.mem_cons.mp h with rfl | hlater
      · exact List.not_mem_nil
      · exact ih hlater
    · next hc =>
      cases hpieces : pieces separator s with
      | nil => exact absurd hpieces (pieces_ne_nil separator s)
      | cons first others =>
        rw [hpieces] at h ih
        rcases List.mem_cons.mp h with rfl | hlater
        · rw [List.mem_cons, not_or]
          exact ⟨Ne.symm hc, ih List.mem_cons_self⟩
        · exact ih (List.mem_cons_of_mem first hlater)

/-- Whether a text is a piece of another: what stands between two neighbouring
separators, when one is put at either end. -/
def IsPiece (separator : Char) (piece s : List Char) : Prop :=
  separator ∉ piece ∧
    separator :: (piece ++ [separator]) <:+: separator :: (s ++ [separator])

theorem isPiece_of_mem_pieces {separator : Char} {piece s : List Char}
    (h : piece ∈ pieces separator s) : IsPiece separator piece s := by
  refine ⟨separator_not_mem_of_mem_pieces h, ?_⟩
  obtain ⟨front, back, hpieces⟩ := List.append_of_mem h
  have hs := flatMap_pieces separator s
  rw [hpieces, List.flatMap_append, List.flatMap_cons] at hs
  -- behind the piece is the next one with its separator, or the one at the end
  obtain ⟨rest, hrest⟩ : ∃ rest,
      back.flatMap (separator :: ·) ++ [separator] = separator :: rest := by
    cases back with
    | nil => exact ⟨[], rfl⟩
    | cons next back => exact ⟨_, rfl⟩
  refine ⟨front.flatMap (separator :: ·), rest, ?_⟩
  calc front.flatMap (separator :: ·) ++ separator :: (piece ++ [separator]) ++ rest
      = front.flatMap (separator :: ·) ++ (separator :: piece ++ (separator :: rest)) := by simp
    _ = separator :: s ++ [separator] := by
        rw [← hrest, ← hs, List.append_assoc, List.append_assoc]

theorem mem_pieces_of_isPiece {separator : Char} {piece s : List Char}
    (h : IsPiece separator piece s) : piece ∈ pieces separator s := by
  obtain ⟨hnot, front, back, hs⟩ := h
  have hparts := congrArg (pieces separator) hs
  simp only [List.cons_append, List.append_assoc, List.nil_append] at hparts
  rw [pieces_append, pieces_append, pieces_eq_singleton hnot, ← List.nil_append (separator :: _),
    pieces_append, pieces_append] at hparts
  -- the first and the last of these pieces are due to the separators at the ends
  obtain ⟨first, before, hfront⟩ := List.exists_cons_of_ne_nil (pieces_ne_nil separator front)
  obtain ⟨after, last, hback⟩ :=
    (List.eq_nil_or_concat' (pieces separator back)).resolve_left (pieces_ne_nil separator back)
  rw [hfront, hback] at hparts
  have hinner : first = [] ∧ before ++ piece :: (after ++ [last]) = pieces separator s ++ [[]] := by
    simpa [pieces] using hparts
  have hends : before ++ piece :: after ++ [last] = pieces separator s ++ [[]] := by
    rw [List.append_assoc, List.cons_append, hinner.2]
  have hpieces : before ++ piece :: after = pieces separator s :=
    List.append_inj_left' hends rfl
  rw [← hpieces]
  exact List.mem_append_right before List.mem_cons_self

/-- **The pieces of a text are what stands between its separators.** -/
theorem mem_pieces_iff {separator : Char} {piece s : List Char} :
    piece ∈ pieces separator s ↔ IsPiece separator piece s :=
  ⟨isPiece_of_mem_pieces, mem_pieces_of_isPiece⟩

end BoardRelay.Text
