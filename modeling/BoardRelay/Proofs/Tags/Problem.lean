/-
  BoardRelay.Proofs.Tags.Problem
  ────────────────────────────────
  Where a tag expression goes wrong.  A text is viable if it can be continued
  to an expression.  A problem tells a text that is merely incomplete from one
  that no continuation mends, and in the second case names the place up to
  which the text is viable and with which it is not:

      read source = .error problem  →  Pinpoints source problem

  The reader takes its input off in pieces that neither help nor harm what
  follows (`LeadsIn`); the problem is found in what is left.
-/
import BoardRelay.Proofs.Tags.Matching

namespace BoardRelay.Tags

open BoardRelay.Text

/-! ## §1. Viable texts. -/

/-- A text that the grammar derives. -/
def Derived (s : List Char) : Prop :=
  ∃ tree : QueryTree, tree.text = s

/-- A text that some continuation turns into an expression. -/
def Viable (s : List Char) : Prop :=
  ∃ rest, Derived (s ++ rest)

/-- Whatever begins a text that can go on can go on too. -/
theorem Viable.of_append {s t : List Char} (h : Viable (s ++ t)) : Viable s := by
  obtain ⟨rest, hderived⟩ := h
  exact ⟨t ++ rest, by rwa [← List.append_assoc]⟩

theorem Derived.viable {s : List Char} (h : Derived s) : Viable s :=
  ⟨[], by rwa [List.append_nil]⟩

/-- A text is derived when the reader reads it, wherever in the input it
stands. -/
theorem derived_iff (pos : Nat) (s : List Char) :
    Derived s ↔ ∃ groups, readGroups ⟨pos, s⟩ = .ok groups := by
  constructor
  · rintro ⟨tree, rfl⟩
    exact ⟨tree.groups, readGroups_text tree pos⟩
  · rintro ⟨groups, h⟩
    obtain ⟨tree, htext, -⟩ := exists_tree_of_readGroups h
    exact ⟨tree, htext⟩

/-- Blanks in front make no difference to it. -/
theorem derived_dropWhile (s : List Char) : Derived (s.dropWhile isBlank) ↔ Derived s := by
  rw [derived_iff (Input.mk 0 s).skipBlanks.pos, derived_iff 0 s, ← readGroups_skipBlanks ⟨0, s⟩]
  rfl

/-- Blanks in front and an atom with an operator behind it make no difference
to what follows them. -/
structure LeadsIn (p : List Char) : Prop where
  derived : ∀ s, Derived (p ++ s) ↔ Derived s
  /-- As many quotes open a keyword in it as close one. -/
  even : p.count '"' % 2 = 0

/-- What leads in leaves open whether the rest can go on. -/
theorem LeadsIn.viable {p : List Char} (hp : LeadsIn p) (s : List Char) :
    Viable (p ++ s) ↔ Viable s := by
  simp only [Viable, List.append_assoc, hp.derived]

/-- What leads in may be put together. -/
theorem LeadsIn.append {p q : List Char} (hp : LeadsIn p) (hq : LeadsIn q) : LeadsIn (p ++ q) where
  derived s := by rw [List.append_assoc, hp.derived, hq.derived]
  even := by
    rw [List.count_append]
    have := hp.even
    have := hq.even
    omega

theorem Blanks.count_quote (b : Blanks) : b.val.count '"' = 0 :=
  List.count_eq_zero.mpr b.quote_not_mem

/-- Blanks lead in. -/
theorem Blanks.leadsIn (b : Blanks) : LeadsIn b.val where
  derived s := by
    rw [← derived_dropWhile, List.dropWhile_append_of_pos b.property, derived_dropWhile]
  even := by rw [b.count_quote]

/-- An atom has two quotes. -/
theorem AtomTree.count_quote (a : AtomTree) : a.text.count '"' = 2 := by
  have hkeyword : a.keyword.val.count '"' = 0 := List.count_eq_zero.mpr a.keyword.property.2
  have hsign : (sign a.negated).count '"' = 0 := by cases a.negated <;> rfl
  simp [AtomTree.text, a.before.count_quote, hkeyword, hsign]

theorem AtomTree.leadsIn (a : AtomTree) (after : Blanks) {c : Char} (hc : c = '&' ∨ c = '|') :
    LeadsIn (a.text ++ (after.val ++ [c])) where
  derived s := by
    rw [List.append_assoc, List.append_assoc, List.singleton_append]
    constructor
    · intro h
      obtain ⟨groups, hread⟩ := (derived_iff 0 _).mp h
      have hskip :=
        Input.skipBlanks_append after (0 + byteLength a.text) (Blanks.head_operator hc s)
      rw [readGroups_eq, readAtom_text] at hread
      simp only [Except.bind, hskip, readMore, if_pos hc] at hread
      split at hread
      · exact absurd hread (by simp)
      · -- the groups behind the operator were read
        rw [readGroups_skipBlanks] at hread
        cases hrest : readGroups ⟨0 + byteLength a.text + byteLength after.val + 1, s⟩ with
        | error e => rw [hrest] at hread; exact absurd hread (by simp [bind, Except.bind])
        | ok others => exact (derived_iff _ s).mpr ⟨others, hrest⟩
    · rintro ⟨tree, rfl⟩
      exact (derived_iff 0 _).mpr
        ⟨_, readGroups_operator a after hc 0 fun pos => readGroups_text tree pos⟩
  even := by
    have hoperator : List.count '"' [c] = 0 := by rcases hc with rfl | rfl <;> rfl
    rw [List.count_append, List.count_append, a.count_quote, after.count_quote, hoperator]

/-! ## §2. The place of a problem. -/

/-- At this offset a quote opens a keyword, and no other quote follows. -/
def OpenQuote (pos : Nat) (s : List Char) : Prop :=
  ∃ before inside, s = before ++ '"' :: inside ∧ pos = byteLength before ∧
    before.count '"' % 2 = 0 ∧ '"' ∉ inside

/-- The last character outside keywords that is not blank is an operator or a
sign, with nothing behind it but the blanks that may stand there. -/
def EndsInOperator (s : List Char) : Prop :=
  ∃ before c after, s = before ++ c :: after ∧ before.count '"' % 2 = 0 ∧
    ((c = '&' ∨ c = '|') ∧ (∀ d ∈ after, isBlank d = true) ∨ c = '!' ∧ after = [])

/-- This character stands at this offset, and the text is viable up to there
and not with it. -/
def StopsAt (found : Char) (pos : Nat) (s : List Char) : Prop :=
  ∃ before after, s = before ++ found :: after ∧ pos = byteLength before ∧
    Viable before ∧ ¬Viable (before ++ [found])

/-- Two quotes stand at this offset, and the text is viable up to the first
and not up to the second. -/
def EmptyQuotes (pos : Nat) (s : List Char) : Prop :=
  ∃ before after, s = before ++ '"' :: '"' :: after ∧ pos = byteLength before ∧
    Viable (before ++ ['"']) ∧ ¬Viable (before ++ ['"', '"'])

/-- What a problem says about a text that starts at an offset. -/
def Blames (start : Nat) (s : List Char) : ReadError → Prop
  | .empty => False
  | .unterminatedKeyword pos => Viable s ∧ ∃ n, pos = start + n ∧ OpenQuote n s
  | .danglingOperator pos => Viable s ∧ pos = start + byteLength s ∧ EndsInOperator s
  | .expectedQuote found pos | .unexpectedChar found pos =>
    ∃ n, pos = start + n ∧ StopsAt found n s
  | .emptyKeyword pos => ∃ n, pos = start + n ∧ EmptyQuotes n s

/-- A quote that is open behind what leads in is open in the whole. -/
theorem LeadsIn.openQuote {p s : List Char} (hp : LeadsIn p) {n : Nat} (h : OpenQuote n s) :
    OpenQuote (byteLength p + n) (p ++ s) := by
  obtain ⟨before, inside, rfl, rfl, heven, hinside⟩ := h
  refine ⟨p ++ before, inside, (List.append_assoc ..).symm, (byteLength_append ..).symm, ?_,
    hinside⟩
  rw [List.count_append]
  have := hp.even
  omega

theorem LeadsIn.endsInOperator {p s : List Char} (hp : LeadsIn p) (h : EndsInOperator s) :
    EndsInOperator (p ++ s) := by
  obtain ⟨before, c, after, rfl, heven, hc⟩ := h
  refine ⟨p ++ before, c, after, (List.append_assoc ..).symm, ?_, hc⟩
  rw [List.count_append]
  have := hp.even
  omega

/-- A character that stops the rest stops the whole, so many bytes later. -/
theorem LeadsIn.stopsAt {p s : List Char} (hp : LeadsIn p) {found : Char} {n : Nat}
    (h : StopsAt found n s) : StopsAt found (byteLength p + n) (p ++ s) := by
  obtain ⟨before, after, rfl, rfl, hviable, hnot⟩ := h
  refine ⟨p ++ before, after, (List.append_assoc ..).symm, (byteLength_append ..).symm,
    (hp.viable before).mpr hviable, ?_⟩
  rwa [List.append_assoc, hp.viable]

theorem LeadsIn.emptyQuotes {p s : List Char} (hp : LeadsIn p) {n : Nat} (h : EmptyQuotes n s) :
    EmptyQuotes (byteLength p + n) (p ++ s) := by
  obtain ⟨before, after, rfl, rfl, hviable, hnot⟩ := h
  refine ⟨p ++ before, after, (List.append_assoc ..).symm, (byteLength_append ..).symm, ?_, ?_⟩
  · rwa [List.append_assoc, hp.viable]
  · rwa [List.append_assoc, hp.viable]

/-- A problem of what is left is a problem of the whole, at the same place. -/
theorem LeadsIn.blames {p s : List Char} (hp : LeadsIn p) {start : Nat} {e : ReadError}
    (h : Blames (start + byteLength p) s e) : Blames start (p ++ s) e := by
  -- the two errors of an unfinished text need it viable as well; the other four stop at a
  -- character
  cases e with
  | empty => exact h
  | unterminatedKeyword pos =>
    obtain ⟨hviable, n, rfl, hopen⟩ := h
    exact ⟨(hp.viable s).mpr hviable, _, Nat.add_assoc .., hp.openQuote hopen⟩
  | danglingOperator pos =>
    obtain ⟨hviable, rfl, hends⟩ := h
    refine ⟨(hp.viable s).mpr hviable, ?_, hp.endsInOperator hends⟩
    rw [byteLength_append, Nat.add_assoc]
  | expectedQuote found pos =>
    obtain ⟨n, rfl, hstops⟩ := h
    exact ⟨_, Nat.add_assoc .., hp.stopsAt hstops⟩
  | unexpectedChar found pos =>
    obtain ⟨n, rfl, hstops⟩ := h
    exact ⟨_, Nat.add_assoc .., hp.stopsAt hstops⟩
  | emptyKeyword pos =>
    obtain ⟨n, rfl, hempty⟩ := h
    exact ⟨_, Nat.add_assoc .., hp.emptyQuotes hempty⟩

/-! ## §3. Problems of one atom. -/

/-- A text that goes on with neither a blank nor a sign, unless it has the
sign already. -/
def Bare (negated : Bool) (rest : List Char) : Prop :=
  negated = false → ∀ c ∈ rest.head?, isBlank c = false ∧ c ≠ '!'

/-- A text without blanks in front begins with a sign or without one. -/
theorem exists_sign {s : List Char} (hs : ∀ c ∈ s.head?, isBlank c = false) :
    ∃ negated rest, s = sign negated ++ rest ∧ Bare negated rest := by
  by_cases hbang : s.head? = some '!'
  · obtain ⟨rest, rfl⟩ := List.head?_eq_some_iff.mp hbang
    exact ⟨true, rest, rfl, by simp [Bare]⟩
  · refine ⟨false, s, rfl, fun _ c hc => ⟨hs c hc, ?_⟩⟩
    rintro rfl
    exact hbang hc

/-- An atom is read behind its sign. -/
theorem readAtom_signed {negated : Bool} {rest : List Char} (h : Bare negated rest) (pos : Nat) :
    readAtom ⟨pos, sign negated ++ rest⟩ =
      readKeyword negated ⟨pos + byteLength (sign negated), rest⟩ := by
  cases negated with
  | true =>
    have hskip : (Input.mk pos ('!' :: rest)).skipBlanks = ⟨pos, '!' :: rest⟩ :=
      Input.skipBlanks_of_head (by simp; decide)
    show readAtom ⟨pos, '!' :: rest⟩ = _
    rw [readAtom_eq, hskip]
    rfl
  -- without a sign the text must not begin with a blank or an exclamation mark, or it would be one
  | false =>
    have hskip : (Input.mk pos rest).skipBlanks = ⟨pos, rest⟩ :=
      Input.skipBlanks_of_head fun c hc => (h rfl c hc).1
    show readAtom ⟨pos, rest⟩ = _
    have hbang : ¬rest.head? = some '!' := fun hbang => (h rfl '!' hbang).2 rfl
    rw [readAtom_eq, hskip]
    exact if_neg hbang

/-- No continuation mends a text on which the reader stops whatever follows. -/
theorem not_viable_of_readAtom {s : List Char}
    (h : ∀ rest, ∃ e, readAtom ⟨0, s ++ rest⟩ = .error e) : ¬Viable s := by
  rintro ⟨rest, hderived⟩
  obtain ⟨e, he⟩ := h rest
  obtain ⟨groups, hread⟩ := (derived_iff 0 _).mp hderived
  rw [readGroups_eq, he] at hread
  exact absurd hread (by simp [Except.bind])

/-- A sign and an open quote can go on. -/
theorem viable_openQuote (negated : Bool) {inside : List Char} (h : '"' ∉ inside) :
    Viable (sign negated ++ '"' :: inside) := by
  refine ⟨['a', '"'], QueryTree.single negated ⟨inside ++ ['a'], by simp, by simp [h]⟩, ?_⟩
  rw [QueryTree.text_single]
  simp

theorem viable_sign (negated : Bool) : Viable (sign negated) :=
  (viable_openQuote negated List.not_mem_nil).of_append

theorem readKeyword_of_ne_quote (negated : Bool) (pos : Nat) {c : Char} (hc : c ≠ '"')
    (inside : List Char) : readKeyword negated ⟨pos, c :: inside⟩ = .error (.expectedQuote c pos) :=
  if_neg hc

/-- Behind a sign nothing but a quote can go on. -/
theorem not_viable_of_ne_quote {negated : Bool} {c : Char} (hbare : Bare negated [c])
    (hc : c ≠ '"') : ¬Viable (sign negated ++ [c]) := by
  apply not_viable_of_readAtom
  intro rest
  have hrest : Bare negated (c :: rest) := hbare
  exact ⟨_, by rw [List.append_assoc, List.singleton_append, readAtom_signed hrest,
    readKeyword_of_ne_quote negated _ hc]⟩

/-- Two quotes with nothing between them cannot go on. -/
theorem not_viable_emptyQuotes (negated : Bool) : ¬Viable (sign negated ++ ['"', '"']) := by
  apply not_viable_of_readAtom
  intro rest
  have hbare : Bare negated ('"' :: '"' :: rest) := by
    intro _ c hc
    obtain rfl : '"' = c := by simpa using hc
    decide
  exact ⟨_, by rw [List.append_assoc, List.cons_append, List.singleton_append,
    readAtom_signed hbare]; rfl⟩

/-- An error at a keyword says how far the text can go on. -/
theorem blames_of_readKeyword {negated : Bool} {rest : List Char} {start : Nat} {e : ReadError}
    (hbare : Bare negated rest) (hne : sign negated ++ rest ≠ [])
    (h : readKeyword negated ⟨start + byteLength (sign negated), rest⟩ = .error e) :
    Blames start (sign negated ++ rest) e := by
  have heven : (sign negated).count '"' % 2 = 0 := by cases negated <;> rfl
  unfold readKeyword at h
  split at h
  · next hrest =>
    -- the text ends behind the sign
    obtain rfl : rest = [] := hrest
    obtain rfl := Except.error.inj h
    have hsign : negated = true := by
      cases negated with
      | true => rfl
      | false => exact absurd rfl hne
    rw [hsign, List.append_nil]
    exact ⟨viable_sign true, rfl, [], '!', [], rfl, rfl, .inr ⟨rfl, rfl⟩⟩
  · next c inside hrest =>
    obtain rfl : rest = c :: inside := hrest
    split at h
    · next hc =>
      subst hc
      split at h
      · next hcut =>
        have hinside : '"' ∉ inside := cut?_eq_none_iff.mp hcut
        obtain rfl := Except.error.inj h
        exact ⟨viable_openQuote negated hinside, _, rfl, sign negated, inside, rfl, rfl, heven,
          hinside⟩
      · -- two quotes are there; the keyword between them is empty, or it was read
        next text after hcut =>
        obtain ⟨rfl, -⟩ := cut?_eq_some_iff.mp hcut
        split at h
        · next hempty =>
          obtain rfl := List.isEmpty_iff.mp hempty
          obtain rfl := Except.error.inj h
          exact ⟨_, rfl, sign negated, after, rfl, rfl, viable_openQuote negated List.not_mem_nil,
            not_viable_emptyQuotes negated⟩
        · exact absurd h (by simp)
    · next hc =>
      obtain rfl := Except.error.inj h
      have hfirst : Bare negated [c] := hbare
      exact ⟨_, rfl, sign negated, inside, rfl, rfl, viable_sign negated,
        not_viable_of_ne_quote hfirst hc⟩

theorem blames_of_readAtom {i : Input} {e : ReadError} (hne : i.skipBlanks.rest ≠ [])
    (h : readAtom i = .error e) : Blames i.pos i.rest e := by
  obtain ⟨before, hrest, hpos⟩ := i.exists_blanks
  obtain ⟨negated, rest, hsigned, hbare⟩ := exists_sign i.head_skipBlanks
  have hread : readAtom ⟨i.skipBlanks.pos, sign negated ++ rest⟩ = .error e := by
    rw [← hsigned]
    exact (readAtom_skipBlanks i).trans h
  rw [readAtom_signed hbare, hpos] at hread
  rw [hsigned] at hne hrest
  -- blanks lead in, so the place of the error moves by their bytes
  rw [hrest]
  exact before.leadsIn.blames (blames_of_readKeyword hbare hne hread)

/-! ## §4. Problems of an expression. -/

/-- An input of which an atom was read: the atom, the blanks behind it and
the rest. -/
theorem readAtom_split {i j : Input} {a : Atom} (h : readAtom i = .ok (a, j)) :
    ∃ (first : AtomTree) (after : Blanks),
      i.rest = first.text ++ (after.val ++ j.skipBlanks.rest) ∧
      j.skipBlanks.pos = i.pos + (byteLength first.text + byteLength after.val) := by
  obtain ⟨first, htext, -⟩ := readAtom_eq_ok h
  obtain ⟨after, hafter, hpos⟩ := j.exists_blanks
  have hi : i = ⟨i.pos, first.text ++ j.rest⟩ := by rw [← htext]
  rw [hi, readAtom_text] at h
  have hj : i.pos + byteLength first.text = j.pos := by
    rw [← (Prod.mk.inj (Except.ok.inj h)).2]
  refine ⟨first, after, ?_, ?_⟩
  · rw [htext, ← hafter]
  · rw [hpos, ← hj, Nat.add_assoc]

/-- Behind an atom stands an operator or nothing. -/
theorem stopsAt_unexpected (a : AtomTree) (after : Blanks) {c : Char} (hblank : isBlank c = false)
    (hc : ¬(c = '&' ∨ c = '|')) (rest : List Char) :
    StopsAt c (byteLength a.text + byteLength after.val) (a.text ++ (after.val ++ c :: rest)) := by
  refine ⟨a.text ++ after.val, rest, (List.append_assoc ..).symm, (byteLength_append ..).symm,
    ?_, ?_⟩
  · -- up to the character it is a query of one keyword
    have hderived : Derived (a.text ++ after.val) :=
      ⟨.group (.atom a after), rfl⟩
    exact hderived.viable
  · rintro ⟨more, hderived⟩
    obtain ⟨groups, hread⟩ := (derived_iff 0 _).mp hderived
    have hhead : ∀ d ∈ (c :: more).head?, isBlank d = false := by
      intro d hd
      obtain rfl : c = d := by simpa using hd
      exact hblank
    -- and behind a keyword the reader accepts operators only, whatever more would follow
    have hskip := Input.skipBlanks_append after (0 + byteLength a.text) hhead
    rw [List.append_assoc, List.append_assoc, List.singleton_append, readGroups_eq,
      readAtom_text] at hread
    simp only [Except.bind, hskip, readMore, if_neg hc] at hread
    exact absurd hread (by simp)

/-- An input of which an atom and an operator were read: what leads in, the
blanks behind the operator and the rest. -/
theorem operator_split {i j : Input} {a : Atom} (hatom : readAtom i = .ok (a, j)) {c : Char}
    {rest : List Char} (hop : j.skipBlanks.rest = c :: rest) (hc : c = '&' ∨ c = '|') :
    ∃ (first : AtomTree) (after before : Blanks),
      i.rest = first.text ++ (after.val ++ [c]) ++
        (before.val ++ (Input.mk (j.skipBlanks.pos + 1) rest).skipBlanks.rest) ∧
      (Input.mk (j.skipBlanks.pos + 1) rest).skipBlanks.pos =
        i.pos + byteLength (first.text ++ (after.val ++ [c])) + byteLength before.val := by
  obtain ⟨first, after, hi, hpos⟩ := readAtom_split hatom
  obtain ⟨before, hrest, hbefore⟩ := (Input.mk (j.skipBlanks.pos + 1) rest).exists_blanks
  -- an operator is one byte
  have hsize : c.utf8Size = 1 := by rcases hc with rfl | rfl <;> rfl
  refine ⟨first, after, before, ?_, ?_⟩
  · rw [← hrest, hi, hop]
    simp
  · rw [hbefore, hpos]
    simp only [byteLength_append, byteLength_cons, byteLength_nil, hsize]
    omega

theorem viable_nil : Viable [] :=
  viable_sign false

/-- The reader's problem is one of the text: an operator with nothing behind
it, or something other than an operator behind an atom, or a problem of one
of the atoms. -/
theorem blames_of_readGroups {i : Input} {e : ReadError} (hne : i.skipBlanks.rest ≠ [])
    (h : readGroups i = .error e) : Blames i.pos i.rest e := by
  fun_induction readGroups i generalizing e with
  | case1 i found hatom =>
    obtain rfl := Except.error.inj h
    exact blames_of_readAtom hne hatom
  | case2 => exact absurd h (by simp)
  | case3 i a afterAtom hatom c rest hop hc next =>
    rename_i hend
    obtain ⟨first, after, before, hi, hpos⟩ := operator_split hatom hop hc
    have hnil : next.rest = [] := List.isEmpty_iff.mp hend
    obtain rfl := Except.error.inj h
    rw [show (Input.mk (afterAtom.skipBlanks.pos + 1) rest).skipBlanks.rest = [] from hnil,
      List.append_nil] at hi
    -- every quote that was opened is closed, so the operator stands outside of them
    have heven : (first.text ++ after.val).count '"' % 2 = 0 := by
      rw [List.count_append, first.count_quote, after.count_quote]
    rw [hi]
    refine ⟨?_, ?_, first.text ++ after.val, c, before.val, ?_, heven, .inl ⟨hc, before.property⟩⟩
    · rw [(first.leadsIn after hc).viable, ← List.append_nil before.val, before.leadsIn.viable]
      exact viable_nil
    · rw [hpos, byteLength_append (_ ++ _), Nat.add_assoc]
    · simp
  | case4 i a afterAtom hatom c rest hop hc next hmore =>
    rename_i ih
    obtain ⟨first, after, before, hi, hpos⟩ := operator_split hatom hop hc
    -- the error is that of the groups behind the operator
    have hnext : readGroups next = .error e := by
      cases hgroups : readGroups next with
      | error found => rw [hgroups] at h; exact h
      | ok groups =>
        rw [hgroups] at h
        exact absurd h (by simp [bind, Except.bind, pure, Except.pure])
    have hskip : next.skipBlanks = next := Input.skipBlanks_of_head (Input.head_skipBlanks _)
    -- and is blamed on the whole text through the two texts that lead in to it
    have hblames := ih (by rw [hskip]; simpa using hmore) hnext
    rw [show next.pos = _ from hpos] at hblames
    rw [hi]
    exact (first.leadsIn after hc).blames (before.leadsIn.blames hblames)
  | case5 i a afterAtom hatom c rest hop hc =>
    obtain ⟨first, after, hi, hpos⟩ := readAtom_split hatom
    obtain rfl := Except.error.inj h
    have hblank : isBlank c = false := afterAtom.head_skipBlanks c (by rw [hop]; rfl)
    rw [hop] at hi
    rw [hi]
    exact ⟨_, hpos, stopsAt_unexpected first after hblank hc rest⟩

/-! ## §5. The first problem. -/

/-- A text that is stopped cannot go on. -/
theorem StopsAt.not_viable {found : Char} {pos : Nat} {s : List Char} (h : StopsAt found pos s) :
    ¬Viable s := by
  obtain ⟨before, after, rfl, -, -, hnot⟩ := h
  intro hviable
  rw [← List.singleton_append, ← List.append_assoc] at hviable
  exact hnot hviable.of_append

theorem EmptyQuotes.not_viable {pos : Nat} {s : List Char} (h : EmptyQuotes pos s) : ¬Viable s := by
  obtain ⟨before, after, rfl, -, -, hnot⟩ := h
  intro hviable
  refine hnot (Viable.of_append (t := after) ?_)
  rwa [List.append_assoc]

/-- Blanks can go on. -/
theorem viable_of_blank {s : List Char} (h : ∀ c ∈ s, isBlank c = true) : Viable s := by
  have hlead : LeadsIn s := Blanks.leadsIn ⟨s, h⟩
  rw [← List.append_nil s, hlead.viable]
  exact viable_nil

theorem OpenQuote.not_blank {pos : Nat} {s : List Char} (h : OpenQuote pos s) :
    ¬∀ c ∈ s, isBlank c = true := by
  obtain ⟨before, inside, rfl, -⟩ := h
  intro hblank
  exact absurd (hblank '"' (by simp)) (by decide)

theorem EndsInOperator.not_blank {s : List Char} (h : EndsInOperator s) :
    ¬∀ c ∈ s, isBlank c = true := by
  obtain ⟨before, c, after, rfl, -, hc⟩ := h
  intro hblank
  have hself : isBlank c = true := hblank c (by simp)
  rcases hc with ⟨rfl | rfl, -⟩ | ⟨rfl, -⟩ <;> exact absurd hself (by decide)

/-- A text with an open quote does not end in an operator. -/
theorem OpenQuote.not_endsInOperator {pos : Nat} {s : List Char} (h : OpenQuote pos s) :
    ¬EndsInOperator s := by
  -- The quotes are odd in number in one case and even in the other.
  obtain ⟨before, inside, hs, -, heven, hinside⟩ := h
  rintro ⟨before', c, after, hs', heven', hc⟩
  have hodd : s.count '"' = before.count '"' + 1 := by
    rw [hs, List.count_append, List.count_cons_self, List.count_eq_zero.mpr hinside]
  have hnone : (c :: after).count '"' = 0 := by
    rw [List.count_eq_zero]
    rcases hc with ⟨rfl | rfl, hafter⟩ | ⟨rfl, rfl⟩
    · simpa using fun hmem => absurd (hafter '"' hmem) (by decide)
    · simpa using fun hmem => absurd (hafter '"' hmem) (by decide)
    · decide
  have hcount : s.count '"' = before'.count '"' := by
    rw [hs', List.count_append, hnone, Nat.add_zero]
  omega

/-- A text has at most one open quote. -/
theorem OpenQuote.eq {pos pos' : Nat} {s : List Char} (h : OpenQuote pos s)
    (h' : OpenQuote pos' s) : pos = pos' := by
  obtain ⟨before, inside, hs, rfl, -, hinside⟩ := h
  obtain ⟨before', inside', hs', rfl, -, hinside'⟩ := h'
  -- both are the last quote of the text
  have hreverse : inside.reverse ++ '"' :: before.reverse =
      inside'.reverse ++ '"' :: before'.reverse := by
    simpa using congrArg List.reverse (hs.symm.trans hs')
  have hcut : cut? '"' (inside.reverse ++ '"' :: before.reverse) =
      some (inside.reverse, before.reverse) :=
    cut?_eq_some_iff.mpr ⟨rfl, by simpa using hinside⟩
  rw [hreverse, cut?_eq_some_iff.mpr ⟨rfl, by simpa using hinside'⟩] at hcut
  have hbefore : before' = before := by
    simpa using (Prod.mk.inj (Option.some.inj hcut)).2
  rw [hbefore]

/-- Problems of a text that only breaks off too early. -/
def ReadError.Incomplete : ReadError → Prop
  | .empty | .unterminatedKeyword _ | .danglingOperator _ => True
  | .expectedQuote _ _ | .unexpectedChar _ _ | .emptyKeyword _ => False

/-- What a problem says about its text, and that it is the only one to say
so. -/
structure Pinpoints (s : List Char) (e : ReadError) : Prop where
  incomplete : e.Incomplete ↔ Viable s
  empty : e = .empty ↔ ∀ c ∈ s, isBlank c = true
  unterminated : ∀ pos, e = .unterminatedKeyword pos ↔ Viable s ∧ OpenQuote pos s
  dangling : ∀ pos, e = .danglingOperator pos ↔
    Viable s ∧ EndsInOperator s ∧ pos = byteLength s
  expected : ∀ found pos, e = .expectedQuote found pos → ¬Viable s ∧ StopsAt found pos s
  unexpected : ∀ found pos, e = .unexpectedChar found pos → ¬Viable s ∧ StopsAt found pos s
  emptyKeyword : ∀ pos, e = .emptyKeyword pos → ¬Viable s ∧ EmptyQuotes pos s

/-- A text of blanks is empty, and has no other problem. -/
theorem pinpoints_blank {s : List Char} (h : ∀ c ∈ s, isBlank c = true) : Pinpoints s .empty where
  incomplete := iff_of_true trivial (viable_of_blank h)
  empty := iff_of_true rfl h
  unterminated _ := iff_of_false nofun fun hopen => hopen.2.not_blank h
  dangling _ := iff_of_false nofun fun hends => hends.2.1.not_blank h
  expected := nofun
  unexpected := nofun
  emptyKeyword := nofun

/-- An open quote is the only problem of a text that can go on. -/
theorem pinpoints_open {s : List Char} {pos : Nat} (hviable : Viable s) (h : OpenQuote pos s) :
    Pinpoints s (.unterminatedKeyword pos) where
  -- more text could still close the quote
  incomplete := iff_of_true trivial hviable
  empty := iff_of_false nofun h.not_blank
  unterminated pos' := by
    constructor
    · intro he
      rw [← ReadError.unterminatedKeyword.inj he]
      exact ⟨hviable, h⟩
    · rintro ⟨-, h'⟩
      rw [h.eq h']
  dangling _ := iff_of_false nofun fun hends => h.not_endsInOperator hends.2.1
  expected := nofun
  unexpected := nofun
  emptyKeyword := nofun

theorem pinpoints_dangling {s : List Char} (hviable : Viable s) (h : EndsInOperator s) :
    Pinpoints s (.danglingOperator (byteLength s)) where
  -- a keyword behind the operator would complete it
  incomplete := iff_of_true trivial hviable
  empty := iff_of_false nofun h.not_blank
  unterminated _ := iff_of_false nofun fun hopen => hopen.2.not_endsInOperator h
  dangling pos' := by
    constructor
    · intro he
      exact ⟨hviable, h, (ReadError.danglingOperator.inj he).symm⟩
    · rintro ⟨-, -, rfl⟩
      rfl
  expected := nofun
  unexpected := nofun
  emptyKeyword := nofun

/-- A text that cannot go on has one of the three other problems. -/
theorem pinpoints_of_not_viable {s : List Char} {e : ReadError} (hviable : ¬Viable s)
    (he : ¬e.Incomplete)
    (hexpected : ∀ found pos, e = .expectedQuote found pos → StopsAt found pos s)
    (hunexpected : ∀ found pos, e = .unexpectedChar found pos → StopsAt found pos s)
    (hempty : ∀ pos, e = .emptyKeyword pos → EmptyQuotes pos s) : Pinpoints s e where
  incomplete := iff_of_false he hviable
  empty := iff_of_false (fun h => he (h ▸ trivial)) fun h => hviable (viable_of_blank h)
  unterminated _ := iff_of_false (fun h => he (h ▸ trivial)) fun h => hviable h.1
  dangling _ := iff_of_false (fun h => he (h ▸ trivial)) fun h => hviable h.1
  expected found pos h := ⟨hviable, hexpected found pos h⟩
  unexpected found pos h := ⟨hviable, hunexpected found pos h⟩
  emptyKeyword pos h := ⟨hviable, hempty pos h⟩

/-- **Whatever the reader blames is the problem.** -/
theorem pinpoints_of_blames {s : List Char} {e : ReadError} (h : Blames 0 s e) :
    Pinpoints s e := by
  -- the first three errors are of texts that can go on, the others of texts that cannot
  cases e with
  | empty => exact absurd h id
  | unterminatedKeyword pos =>
    obtain ⟨hviable, n, rfl, hopen⟩ := h
    rw [Nat.zero_add]
    exact pinpoints_open hviable hopen
  | danglingOperator pos =>
    obtain ⟨hviable, rfl, hends⟩ := h
    rw [Nat.zero_add]
    exact pinpoints_dangling hviable hends
  | expectedQuote found pos =>
    obtain ⟨n, rfl, hstops⟩ := h
    rw [Nat.zero_add]
    refine pinpoints_of_not_viable hstops.not_viable id ?_ nofun nofun
    rintro _ _ ⟨⟩
    exact hstops
  | unexpectedChar found pos =>
    obtain ⟨n, rfl, hstops⟩ := h
    rw [Nat.zero_add]
    refine pinpoints_of_not_viable hstops.not_viable id nofun ?_ nofun
    rintro _ _ ⟨⟩
    exact hstops
  | emptyKeyword pos =>
    obtain ⟨n, rfl, hempty⟩ := h
    rw [Nat.zero_add]
    refine pinpoints_of_not_viable hempty.not_viable id nofun nofun ?_
    rintro _ ⟨⟩
    exact hempty

/-- The problem of an expression that cannot be read tells whether the text is
merely incomplete, and names the place where it goes wrong. -/
theorem read_error_pinpoints {source : String} {e : ReadError}
    (h : Query.read source = .error e) : Pinpoints source.toList e := by
  rw [Query.read] at h
  split at h
  · next hblank =>
    obtain rfl := Except.error.inj h
    exact pinpoints_blank (List.all_eq_true.mp hblank)
  · next hblank =>
    -- a source that is not blank has something behind its blanks
    have hne : (Input.mk 0 source.toList).skipBlanks.rest ≠ [] := by
      intro hnil
      exact hblank (List.all_eq_true.mpr (List.dropWhile_eq_nil_iff.mp hnil))
    cases hgroups : readGroups ⟨0, source.toList⟩ with
    | ok groups => rw [hgroups] at h; exact absurd h (by simp [Except.map])
    | error found =>
      rw [hgroups] at h
      obtain rfl : found = e := Except.error.inj h
      exact pinpoints_of_blames (blames_of_readGroups hne hgroups)

/-- A blank between the sign and the quote, behind an operator and a keyword
of more bytes than characters. -/
theorem blank_behind_sign_pinpointed :
    Query.read "\"é\" & ! \"b\"" = .error (.expectedQuote ' ' 8) ∧
    Pinpoints "\"é\" & ! \"b\"".toList (.expectedQuote ' ' 8) := by
  have hread : Query.read "\"é\" & ! \"b\"" = .error (.expectedQuote ' ' 8) := by
    have hfirst : readAtom ⟨0, ['"', 'é', '"', ' ', '&', ' ', '!', ' ', '"', 'b', '"']⟩ =
        .ok (⟨['é'], false⟩, ⟨4, [' ', '&', ' ', '!', ' ', '"', 'b', '"']⟩) := by rfl
    have hsecond : readAtom ⟨7, ['!', ' ', '"', 'b', '"']⟩ = .error (.expectedQuote ' ' 8) := by rfl
    show (readGroups ⟨0, ['"', 'é', '"', ' ', '&', ' ', '!', ' ', '"', 'b', '"']⟩).map Query.mk = _
    rw [readGroups_eq, hfirst]
    show ((readGroups ⟨7, ['!', ' ', '"', 'b', '"']⟩).bind _).map Query.mk = _
    rw [readGroups_eq, hsecond]
    rfl
  exact ⟨hread, read_error_pinpoints hread⟩

end BoardRelay.Tags
