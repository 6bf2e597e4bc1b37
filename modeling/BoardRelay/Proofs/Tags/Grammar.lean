/-
  BoardRelay.Proofs.Tags.Grammar
  ────────────────────────────────
  The grammar of tag expressions as derivation trees, and that the reader
  reads exactly the texts that have one:

      read source = .ok q  ↔  ∃ tree, tree.text = source ∧ q = ⟨tree.groups⟩

  A tree keeps every character of its text, blanks included, so a text has
  at most one tree (`QueryTree.text_injective`).
-/
import BoardRelay.Proofs.Text.Blank
import BoardRelay.Proofs.Text.Search
import BoardRelay.Tags.Reader
import Mathlib.Data.List.TakeWhile

namespace BoardRelay.Tags

open BoardRelay.Text

/-! ## §1. Derivation trees. -/

/-- A run of blanks. -/
abbrev Blanks := { s : List Char // ∀ c ∈ s, isBlank c = true }

/-- What may stand between two quotes. -/
abbrev Keyword := { s : List Char // s ≠ [] ∧ '"' ∉ s }

/-- `blanks ['!'] '"' keyword '"'` -/
structure AtomTree where
  before : Blanks
  negated : Bool
  keyword : Keyword
  deriving DecidableEq

/-- `atom blanks` or `atom blanks '&' group` -/
inductive GroupTree where
  | atom (first : AtomTree) (after : Blanks)
  | and (first : AtomTree) (after : Blanks) (rest : GroupTree)
  deriving DecidableEq

/-- `group` or `group '|' expression` -/
inductive QueryTree where
  | group (first : GroupTree)
  | or (first : GroupTree) (rest : QueryTree)
  deriving DecidableEq

/-- What stands between the blanks and the opening quote. -/
def sign (negated : Bool) : List Char :=
  if negated then ['!'] else []

/-- The text that an atom derives. -/
def AtomTree.text (a : AtomTree) : List Char :=
  a.before.val ++ (sign a.negated ++ '"' :: (a.keyword.val ++ ['"']))

/-- The text that a group derives. -/
def GroupTree.text : GroupTree → List Char
  | .atom first after => first.text ++ after.val
  | .and first after rest => first.text ++ (after.val ++ '&' :: rest.text)

/-- The text that an expression derives. -/
def QueryTree.text : QueryTree → List Char
  | .group first => first.text
  | .or first rest => first.text ++ '|' :: rest.text

/-- What an atom asks of a text. -/
def AtomTree.atom (a : AtomTree) : Atom :=
  ⟨lowercase a.keyword.val, a.negated⟩

/-- The atoms of a conjunction in order. -/
def GroupTree.atoms : GroupTree → List Atom
  | .atom first _ => [first.atom]
  | .and first _ rest => first.atom :: rest.atoms

/-- The conjunctions of an expression in order. -/
def QueryTree.groups : QueryTree → List (List Atom)
  | .group first => [first.atoms]
  | .or first rest => first.atoms :: rest.groups

/-! ## §2. Blanks and quotes. -/

/-- No blanks. -/
def Blanks.none : Blanks :=
  ⟨[], List.forall_mem_nil _⟩

/-- Blanks and more blanks. -/
def Blanks.append (b b' : Blanks) : Blanks :=
  ⟨b.val ++ b'.val, List.forall_mem_append.mpr ⟨b.property, b'.property⟩⟩

@[simp]
theorem Blanks.val_none : Blanks.none.val = [] := rfl

@[simp]
theorem Blanks.val_append (b b' : Blanks) : (b.append b').val = b.val ++ b'.val := rfl

/-- Blanks before something else are all the blanks there. -/
theorem Blanks.takeWhile_append (b : Blanks) {s : List Char}
    (hs : ∀ c ∈ s.head?, isBlank c = false) : (b.val ++ s).takeWhile isBlank = b.val := by
  rw [List.takeWhile_append_of_pos b.property]
  cases s with
  | nil => simp
  | cons c rest => simp [hs c (by simp)]

theorem Blanks.dropWhile_append (b : Blanks) {s : List Char}
    (hs : ∀ c ∈ s.head?, isBlank c = false) : (b.val ++ s).dropWhile isBlank = s :=
  dropWhile_append_blanks b.property hs

/-- A run of blanks ends where the first other character stands. -/
theorem Blanks.append_inj {b b' : Blanks} {s s' : List Char}
    (hs : ∀ c ∈ s.head?, isBlank c = false) (hs' : ∀ c ∈ s'.head?, isBlank c = false)
    (h : b.val ++ s = b'.val ++ s') : b = b' ∧ s = s' := by
  have hb : b.val = b'.val := by
    rw [← b.takeWhile_append hs, h, b'.takeWhile_append hs']
  rw [hb] at h
  exact ⟨Subtype.ext hb, List.append_cancel_left h⟩

/-- There is no quote among blanks. -/
theorem Blanks.quote_not_mem (b : Blanks) : '"' ∉ b.val := by
  intro hmem
  exact absurd (b.property '"' hmem) (by decide)

@[simp]
theorem byteLength_nil : byteLength [] = 0 := rfl

@[simp]
theorem byteLength_cons (c : Char) (s : List Char) :
    byteLength (c :: s) = c.utf8Size + byteLength s := rfl

@[simp]
theorem byteLength_append (s t : List Char) :
    byteLength (s ++ t) = byteLength s + byteLength t := by
  induction s with
  | nil => simp
  | cons c s ih => simp [ih, Nat.add_assoc]

/-! ## §3. Reading one atom. -/

theorem Input.skipBlanks_of_head {i : Input} (h : ∀ c ∈ i.rest.head?, isBlank c = false) :
    i.skipBlanks = i := by
  obtain ⟨pos, rest⟩ := i
  cases rest with
  | nil => simp [Input.skipBlanks]
  | cons c rest => simp [Input.skipBlanks, h c (by simp)]

/-- Skipping blanks goes on by their bytes. -/
theorem Input.skipBlanks_append (b : Blanks) (pos : Nat) {s : List Char}
    (hs : ∀ c ∈ s.head?, isBlank c = false) :
    (Input.mk pos (b.val ++ s)).skipBlanks = ⟨pos + byteLength b.val, s⟩ := by
  simp only [Input.skipBlanks, b.takeWhile_append hs, b.dropWhile_append hs]

theorem Input.head_skipBlanks (i : Input) : ∀ c ∈ i.skipBlanks.rest.head?, isBlank c = false :=
  head_dropWhile_blank i.rest

/-- The input is its blanks and what is left without them. -/
theorem Input.exists_blanks (i : Input) :
    ∃ b : Blanks, i.rest = b.val ++ i.skipBlanks.rest ∧
      i.skipBlanks.pos = i.pos + byteLength b.val :=
  ⟨⟨i.rest.takeWhile isBlank, fun _ hc => List.mem_takeWhile_imp hc⟩,
    List.takeWhile_append_dropWhile.symm, rfl⟩

/-- A quoted keyword is read up to its second quote. -/
theorem readKeyword_quoted (negated : Bool) (keyword : Keyword) (pos : Nat) (rest : List Char) :
    readKeyword negated ⟨pos, '"' :: (keyword.val ++ '"' :: rest)⟩ =
      .ok (⟨lowercase keyword.val, negated⟩, ⟨pos + byteLength keyword.val + 2, rest⟩) := by
  have hcut : cut? '"' (keyword.val ++ '"' :: rest) = some (keyword.val, rest) :=
    cut?_eq_some_iff.mpr ⟨rfl, keyword.property.2⟩
  have hne : keyword.val.isEmpty = false := by
    simpa using keyword.property.1
  simp [readKeyword, hcut, hne]

/-- Nothing else is read as a keyword. -/
theorem readKeyword_eq_ok {negated : Bool} {i j : Input} {a : Atom}
    (h : readKeyword negated i = .ok (a, j)) :
    ∃ keyword : Keyword, i.rest = '"' :: (keyword.val ++ '"' :: j.rest) ∧
      a = ⟨lowercase keyword.val, negated⟩ := by
  -- Of the four ways through the reader the three others are errors.
  unfold readKeyword at h
  split at h
  · exact absurd h (by simp)
  · next c inside hrest =>
    split at h
    · next hc =>
      split at h
      · exact absurd h (by simp)
      · next text after hcut =>
        obtain ⟨hinside, hnot⟩ := cut?_eq_some_iff.mp hcut
        split at h
        · exact absurd h (by simp)
        · next hne =>
          simp only [Except.ok.injEq, Prod.mk.injEq] at h
          obtain ⟨rfl, rfl⟩ := h
          exact ⟨⟨text, by simpa using hne, hnot⟩, by rw [hrest, hc, hinside], rfl⟩
    · exact absurd h (by simp)

/-- The text of an atom without the blanks before it. -/
theorem AtomTree.head_signed (negated : Bool) (keyword : Keyword) (rest : List Char) :
    ∀ c ∈ (sign negated ++ '"' :: (keyword.val ++ '"' :: rest)).head?, isBlank c = false := by
  cases negated <;> (simp [sign]; decide)

theorem AtomTree.text_append (a : AtomTree) (rest : List Char) :
    a.text ++ rest =
      a.before.val ++ (sign a.negated ++ '"' :: (a.keyword.val ++ '"' :: rest)) := by
  simp [AtomTree.text]

/-- Reading an atom takes exactly its text. -/
theorem readAtom_text (a : AtomTree) (pos : Nat) (rest : List Char) :
    readAtom ⟨pos, a.text ++ rest⟩ = .ok (a.atom, ⟨pos + byteLength a.text, rest⟩) := by
  obtain ⟨before, negated, keyword⟩ := a
  -- quotes and the exclamation mark are one byte each, which is all the arithmetic below needs
  have hquote : '"'.utf8Size = 1 := by decide
  have hbang : '!'.utf8Size = 1 := by decide
  rw [readAtom, AtomTree.text_append,
    Input.skipBlanks_append _ _ (AtomTree.head_signed negated keyword rest)]
  cases negated with
  | false =>
    simp only [sign, Bool.false_eq_true, if_false, List.nil_append]
    rw [readKeyword_quoted]
    simp [AtomTree.atom, AtomTree.text, sign, hquote]
    omega
  | true =>
    simp only [sign, if_true, List.cons_append, List.nil_append]
    rw [readKeyword_quoted]
    simp [AtomTree.atom, AtomTree.text, sign, hquote, hbang]
    omega

/-- What is read as an atom is the text of one. -/
theorem readAtom_eq_ok {i j : Input} {a : Atom} (h : readAtom i = .ok (a, j)) :
    ∃ tree : AtomTree, i.rest = tree.text ++ j.rest ∧ a = tree.atom := by
  obtain ⟨before, hbefore, -⟩ := i.exists_blanks
  unfold readAtom at h
  dsimp only at h
  -- with an exclamation mark the keyword is negated
  split at h
  · next rest hrest =>
    obtain ⟨keyword, hkeyword, rfl⟩ := readKeyword_eq_ok h
    refine ⟨⟨before, true, keyword⟩, ?_, rfl⟩
    rw [AtomTree.text_append, hbefore, hrest]
    exact congrArg (before.val ++ '!' :: ·) hkeyword
  · obtain ⟨keyword, hkeyword, rfl⟩ := readKeyword_eq_ok h
    refine ⟨⟨before, false, keyword⟩, ?_, rfl⟩
    rw [AtomTree.text_append, hbefore, hkeyword]
    rfl

/-- Blanks before an atom make no difference. -/
theorem readAtom_skipBlanks (i : Input) : readAtom i.skipBlanks = readAtom i := by
  simp only [readAtom, Input.skipBlanks_of_head i.head_skipBlanks]

/-! ## §4. Reading an expression. -/

/-- What becomes of an atom and the input after the blanks that follow it. -/
def readMore (a : Atom) (i : Input) : Except ReadError (List (List Atom)) :=
  match i.rest with
  | [] => .ok [[a]]
  | c :: rest =>
    if c = '&' ∨ c = '|' then
      let next := (Input.mk (i.pos + 1) rest).skipBlanks
      if next.rest.isEmpty then .error (.danglingOperator next.pos)
      else do
        let groups ← readGroups next
        return if c = '&' then conjoin a groups else [a] :: groups
    else .error (.unexpectedChar c i.pos)

/-- **The reader takes one atom and goes by what is behind it.** -/
theorem readGroups_eq (i : Input) :
    readGroups i = (readAtom i).bind fun (a, after) => readMore a after.skipBlanks := by
  rw [readGroups]
  split
  · next h => rw [h]; rfl
  · next a after h =>
    rw [h]
    simp only [Except.bind, readMore]
    split
    · next hop => simp only [hop]
    · next hop => simp only [hop]

theorem readGroups_skipBlanks (i : Input) : readGroups i.skipBlanks = readGroups i := by
  rw [readGroups_eq, readGroups_eq, readAtom_skipBlanks]

/-- What can be read is not blank. -/
theorem skipBlanks_ne_nil_of_readGroups {i : Input} {groups : List (List Atom)}
    (h : readGroups i = .ok groups) : i.skipBlanks.rest ≠ [] := by
  intro hnil
  -- An atom is read first, and its text is not empty.
  rw [← readGroups_skipBlanks, readGroups_eq] at h
  cases hatom : readAtom i.skipBlanks with
  | error e => rw [hatom] at h; exact absurd h (by simp [Except.bind])
  | ok found =>
    obtain ⟨tree, htext, -⟩ := readAtom_eq_ok hatom
    rw [hnil] at htext
    simp [AtomTree.text] at htext

theorem Blanks.head_nil : ∀ c ∈ ([] : List Char).head?, isBlank c = false := by
  simp

theorem Blanks.head_operator {c : Char} (hc : c = '&' ∨ c = '|') (rest : List Char) :
    ∀ d ∈ (c :: rest).head?, isBlank d = false := by
  intro d hd
  obtain rfl : c = d := by simpa using hd
  rcases hc with rfl | rfl <;> decide

/-- An atom with nothing but blanks after it is a whole expression. -/
theorem readGroups_last (a : AtomTree) (after : Blanks) (pos : Nat) :
    readGroups ⟨pos, a.text ++ after.val⟩ = .ok [[a.atom]] := by
  have hskip := Input.skipBlanks_append after (pos + byteLength a.text) Blanks.head_nil
  rw [List.append_nil] at hskip
  rw [readGroups_eq, readAtom_text]
  simp only [Except.bind, hskip, readMore]

/-- An operator joins an atom to whatever can be read after it. -/
theorem readGroups_operator (a : AtomTree) (after : Blanks) {c : Char} (hc : c = '&' ∨ c = '|')
    {rest : List Char} {groups : List (List Atom)} (pos : Nat)
    (h : ∀ pos, readGroups ⟨pos, rest⟩ = .ok groups) :
    readGroups ⟨pos, a.text ++ (after.val ++ c :: rest)⟩ =
      .ok (if c = '&' then conjoin a.atom groups else [a.atom] :: groups) := by
  have hskip := Input.skipBlanks_append after (pos + byteLength a.text)
    (Blanks.head_operator hc rest)
  have hnext := skipBlanks_ne_nil_of_readGroups
    (h (pos + byteLength a.text + byteLength after.val + 1))
  rw [readGroups_eq, readAtom_text]
  simp only [Except.bind, hskip, readMore, if_pos hc]
  rw [if_neg (by simpa using hnext), readGroups_skipBlanks, h]
  rfl

/-- A group is read atom by atom when its last atom is read as one that ends
it. -/
theorem readGroups_group (g : GroupTree) {tail : List Char} {groups : List (List Atom)}
    (hlast : ∀ (a : AtomTree) (after : Blanks) (pos : Nat),
      readGroups ⟨pos, a.text ++ (after.val ++ tail)⟩ = .ok ([a.atom] :: groups)) :
    ∀ pos, readGroups ⟨pos, g.text ++ tail⟩ = .ok (g.atoms :: groups) := by
  -- Induction on the group; the last atom is the only one whose reading depends on what comes
  -- behind.
  induction g with
  | atom first after =>
    intro pos
    rw [GroupTree.text, List.append_assoc]
    exact hlast first after pos
  | and first after rest ih =>
    intro pos
    rw [GroupTree.text, List.append_assoc, List.append_assoc]
    exact readGroups_operator first after (.inl rfl) pos ih

/-- Every derived text is read as its tree says. -/
theorem readGroups_text (tree : QueryTree) :
    ∀ pos, readGroups ⟨pos, tree.text⟩ = .ok tree.groups := by
  induction tree with
  | group first =>
    intro pos
    have h : readGroups ⟨pos, first.text ++ []⟩ = .ok [first.atoms] :=
      readGroups_group first
        (fun a after pos => by rw [List.append_nil]; exact readGroups_last a after pos) pos
    rwa [List.append_nil] at h
  | or first rest ih =>
    exact readGroups_group first
      (fun a after pos => readGroups_operator a after (.inr rfl) pos ih)

/-! ## §5. Whatever is read has a tree. -/

/-- An atom with more blanks before it. -/
def AtomTree.indent (b : Blanks) (a : AtomTree) : AtomTree :=
  { a with before := ⟨b.val ++ a.before.val, by
      intro c hc
      rcases List.mem_append.mp hc with hb | ha
      · exact b.property c hb
      · exact a.before.property c ha⟩ }

/-- A conjunction with more blanks before it. -/
def GroupTree.indent (b : Blanks) : GroupTree → GroupTree
  | .atom first after => .atom (first.indent b) after
  | .and first after rest => .and (first.indent b) after rest

/-- An expression with more blanks before it. -/
def QueryTree.indent (b : Blanks) : QueryTree → QueryTree
  | .group first => .group (first.indent b)
  | .or first rest => .or (first.indent b) rest

/-- An expression with an atom and '&' before it. -/
def QueryTree.conjoin (a : AtomTree) (after : Blanks) : QueryTree → QueryTree
  | .group first => .group (.and a after first)
  | .or first rest => .or (.and a after first) rest

/-- Blanks in front of a query belong to its first atom. -/
theorem QueryTree.text_indent (b : Blanks) (tree : QueryTree) :
    (tree.indent b).text = b.val ++ tree.text := by
  rcases tree with (⟨first, after⟩ | ⟨first, after, rest⟩) | ⟨⟨first, after⟩ | _, _⟩ <;>
    simp [QueryTree.indent, GroupTree.indent, AtomTree.indent, QueryTree.text, GroupTree.text,
      AtomTree.text]

theorem QueryTree.groups_indent (b : Blanks) (tree : QueryTree) :
    (tree.indent b).groups = tree.groups := by
  rcases tree with (⟨first, after⟩ | ⟨first, after, rest⟩) | ⟨⟨first, after⟩ | _, _⟩ <;> rfl

/-- An atom may be joined to the first group of a query. -/
theorem QueryTree.text_conjoin (a : AtomTree) (after : Blanks) (tree : QueryTree) :
    (tree.conjoin a after).text = a.text ++ (after.val ++ '&' :: tree.text) := by
  cases tree <;> simp [QueryTree.conjoin, QueryTree.text, GroupTree.text]

theorem QueryTree.groups_conjoin (a : AtomTree) (after : Blanks) (tree : QueryTree) :
    (tree.conjoin a after).groups = Tags.conjoin a.atom tree.groups := by
  cases tree <;> rfl

/-- **What is read is the text of a tree**, and the groups are those of the
tree. -/
theorem exists_tree_of_readGroups {i : Input} {groups : List (List Atom)}
    (h : readGroups i = .ok groups) :
    ∃ tree : QueryTree, tree.text = i.rest ∧ tree.groups = groups := by
  -- Induction along the reader, atom by atom.
  fun_induction readGroups i generalizing groups with
  | case1 => exact absurd h (by simp)
  | case2 i a afterAtom hatom hop =>
    -- nothing but blanks after the atom
    obtain ⟨first, htext, rfl⟩ := readAtom_eq_ok hatom
    obtain ⟨after, hafter, -⟩ := afterAtom.exists_blanks
    simp only [Except.ok.injEq] at h
    rw [hop, List.append_nil] at hafter
    exact ⟨.group (.atom first after), by rw [htext, hafter]; rfl, h⟩
  | case3 => exact absurd h (by simp)
  | case4 i a afterAtom hatom c rest hop hc next _ =>
    rename_i ih
    obtain ⟨first, htext, rfl⟩ := readAtom_eq_ok hatom
    obtain ⟨after, hafter, -⟩ := afterAtom.exists_blanks
    -- The blanks after the operator were skipped: they belong to the next atom.
    obtain ⟨before, hbefore, -⟩ := (Input.mk (afterAtom.skipBlanks.pos + 1) rest).exists_blanks
    cases hnext : readGroups next with
    | error e => rw [hnext] at h; exact absurd h (by simp [bind, Except.bind])
    | ok others =>
      obtain ⟨tree, hrest, rfl⟩ := ih hnext
      rw [hnext] at h
      obtain rfl : (if c = '&' then conjoin first.atom tree.groups
          else [first.atom] :: tree.groups) = groups := Except.ok.inj h
      have hi : i.rest = first.text ++ (after.val ++ c :: (tree.indent before).text) := by
        rw [htext, hafter, hop, tree.text_indent, hrest, ← hbefore]
      by_cases hand : c = '&'
      · refine ⟨(tree.indent before).conjoin first after, ?_, ?_⟩
        · rw [QueryTree.text_conjoin, hi, hand]
        · rw [QueryTree.groups_conjoin, tree.groups_indent, if_pos hand]
      · have hor : c = '|' := hc.resolve_left hand
        refine ⟨.or (.atom first after) (tree.indent before), ?_, ?_⟩
        · rw [hi, hor]
          simp [QueryTree.text, GroupTree.text]
        · rw [if_neg hand, ← tree.groups_indent before]
          rfl
  | case5 => exact absurd h (by simp)

/-! ## §6. A text has at most one tree. -/

/-- An atom in front of a text is found in only one way. -/
theorem AtomTree.text_append_inj {a a' : AtomTree} {s s' : List Char}
    (h : a.text ++ s = a'.text ++ s') : a = a' ∧ s = s' := by
  obtain ⟨before, negated, keyword⟩ := a
  obtain ⟨before', negated', keyword'⟩ := a'
  rw [AtomTree.text_append, AtomTree.text_append] at h
  obtain ⟨rfl, hsigned⟩ := Blanks.append_inj (AtomTree.head_signed negated keyword s)
    (AtomTree.head_signed negated' keyword' s') h
  -- what follows the blanks begins with '!' or with a quote
  have hsign : negated = negated' := by
    cases negated <;> cases negated' <;> simp [sign] at hsigned ⊢
  subst hsign
  have hquoted := List.append_cancel_left hsigned
  -- both keywords are what stands before the first quote
  have hcut : cut? '"' (keyword.val ++ '"' :: s) = some (keyword.val, s) :=
    cut?_eq_some_iff.mpr ⟨rfl, keyword.property.2⟩
  rw [(List.cons.inj hquoted).2, cut?_eq_some_iff.mpr ⟨rfl, keyword'.property.2⟩] at hcut
  obtain ⟨hkeyword, hrest⟩ := Prod.mk.inj (Option.some.inj hcut)
  exact ⟨by rw [Subtype.ext hkeyword], hrest.symm⟩

/-- What may follow a conjunction: nothing, or '|' and more. -/
def EndsGroup (s : List Char) : Prop :=
  s = [] ∨ ∃ rest, s = '|' :: rest

theorem EndsGroup.head {s : List Char} (h : EndsGroup s) : ∀ c ∈ s.head?, isBlank c = false := by
  obtain rfl | ⟨rest, rfl⟩ := h
  · exact Blanks.head_nil
  · exact Blanks.head_operator (.inr rfl) rest

/-- Nothing that ends a group goes on with it. -/
theorem EndsGroup.ne_and {s rest : List Char} (h : EndsGroup s) : s ≠ '&' :: rest := by
  obtain rfl | ⟨rest, rfl⟩ := h <;> simp

/-- A group is found again in front of what ends it. -/
theorem GroupTree.text_append_inj {g g' : GroupTree} {s s' : List Char} (hs : EndsGroup s)
    (hs' : EndsGroup s') (h : g.text ++ s = g'.text ++ s') : g = g' ∧ s = s' := by
  -- Neither the end of the text nor '|' could be taken for '&'.
  have hand := Blanks.head_operator (.inl rfl)
  induction g generalizing g' with
  | atom first after =>
    cases g' with
    | atom first' after' =>
      simp only [GroupTree.text, List.append_assoc] at h
      obtain ⟨rfl, hafter⟩ := AtomTree.text_append_inj h
      obtain ⟨rfl, rfl⟩ := Blanks.append_inj hs.head hs'.head hafter
      exact ⟨rfl, rfl⟩
    | and first' after' rest' =>
      simp only [GroupTree.text, List.append_assoc] at h
      obtain ⟨rfl, hafter⟩ := AtomTree.text_append_inj h
      exact absurd (Blanks.append_inj hs.head (hand _) hafter).2 hs.ne_and
  | and first after rest ih =>
    cases g' with
    | atom first' after' =>
      simp only [GroupTree.text, List.append_assoc] at h
      obtain ⟨rfl, hafter⟩ := AtomTree.text_append_inj h
      exact absurd (Blanks.append_inj (hand _) hs'.head hafter).2.symm hs'.ne_and
    | and first' after' rest' =>
      simp only [GroupTree.text, List.append_assoc] at h
      obtain ⟨rfl, hafter⟩ := AtomTree.text_append_inj h
      obtain ⟨rfl, hrest⟩ := Blanks.append_inj (hand _) (hand _) hafter
      obtain ⟨rfl, rfl⟩ := ih (List.cons.inj hrest).2
      exact ⟨rfl, rfl⟩

/-- **No text has two trees.** -/
theorem QueryTree.text_injective : Function.Injective QueryTree.text := by
  intro tree
  -- Induction on the one tree; a group ends where the text does or at a bar, so the other has the
  -- same first group.
  induction tree with
  | group first =>
    intro tree' h
    cases tree' with
    | group first' =>
      have hcat : first.text ++ [] = first'.text ++ [] := congrArg (· ++ []) h
      rw [(GroupTree.text_append_inj (.inl rfl) (.inl rfl) hcat).1]
    | or first' rest' =>
      have hcat : first.text ++ [] = first'.text ++ '|' :: rest'.text := by
        rw [List.append_nil]; exact h
      exact absurd (GroupTree.text_append_inj (.inl rfl) (.inr ⟨_, rfl⟩) hcat).2 (by simp)
  | or first rest ih =>
    intro tree' h
    cases tree' with
    | group first' =>
      have hcat : first.text ++ '|' :: rest.text = first'.text ++ [] := by
        rw [List.append_nil]; exact h
      exact absurd (GroupTree.text_append_inj (.inr ⟨_, rfl⟩) (.inl rfl) hcat).2 (by simp)
    | or first' rest' =>
      obtain ⟨rfl, hrest⟩ :=
        GroupTree.text_append_inj (.inr ⟨_, rfl⟩) (.inr ⟨_, rfl⟩) h
      rw [List.cons.injEq] at hrest
      rw [ih hrest.2]

/-! ## §7. The reader and the grammar. -/

theorem AtomTree.exists_quote (a : AtomTree) : ∃ front, a.text = front ++ ['"'] :=
  ⟨a.before.val ++ (sign a.negated ++ '"' :: a.keyword.val), by simp [AtomTree.text]⟩

/-- The last keyword of a group has its quote, and only blanks are behind it. -/
theorem GroupTree.exists_quote (g : GroupTree) :
    ∃ (front : List Char) (after : Blanks), g.text = front ++ '"' :: after.val := by
  induction g with
  | atom first after =>
    obtain ⟨front, hfront⟩ := first.exists_quote
    exact ⟨front, after, by simp [GroupTree.text, hfront]⟩
  | and first after rest ih =>
    obtain ⟨front, last, hlast⟩ := ih
    exact ⟨first.text ++ (after.val ++ '&' :: front), last, by simp [GroupTree.text, hlast]⟩

/-- Nothing but blanks follows the last quote of an expression. -/
theorem QueryTree.exists_quote (tree : QueryTree) :
    ∃ (front : List Char) (after : Blanks), tree.text = front ++ '"' :: after.val := by
  induction tree with
  | group first => exact first.exists_quote
  | or first rest ih =>
    obtain ⟨front, last, hlast⟩ := ih
    exact ⟨first.text ++ '|' :: front, last, by simp [QueryTree.text, hlast]⟩

theorem QueryTree.not_allBlank (tree : QueryTree) : allBlank tree.text = false := by
  obtain ⟨front, after, htext⟩ := tree.exists_quote
  rw [allBlank, List.all_eq_false]
  exact ⟨'"', by simp [htext], by decide⟩

/-- The text of a tree is read as its groups. -/
theorem read_text {source : String} {tree : QueryTree} (h : tree.text = source.toList) :
    Query.read source = .ok ⟨tree.groups⟩ := by
  rw [Query.read, ← h, tree.not_allBlank, readGroups_text tree 0]
  rfl

/-- Only such texts are read. -/
theorem exists_tree_of_read {source : String} {q : Query} (h : Query.read source = .ok q) :
    ∃ tree : QueryTree, tree.text = source.toList ∧ q = ⟨tree.groups⟩ := by
  unfold Query.read at h
  split at h
  · exact absurd h (by simp)
  · cases hgroups : readGroups ⟨0, source.toList⟩ with
    | error e => rw [hgroups] at h; exact absurd h (by simp [Except.map])
    | ok groups =>
      obtain ⟨tree, htext, rfl⟩ := exists_tree_of_readGroups hgroups
      rw [hgroups] at h
      exact ⟨tree, htext, (Except.ok.inj h).symm⟩

theorem exists_tree_iff_read {source : String} :
    (∃ tree : QueryTree, tree.text = source.toList) ↔ ∃ q, Query.read source = .ok q := by
  constructor
  · rintro ⟨tree, htext⟩
    exact ⟨_, read_text htext⟩
  · rintro ⟨q, hq⟩
    obtain ⟨tree, htext, -⟩ := exists_tree_of_read hq
    exact ⟨tree, htext⟩

/-- A text can be read if and only if the grammar derives it.  Its tree is
then the only one, and what is read are the conjunctions of the tree in
order, each atom with its keyword in lower case and its sign. -/
theorem read_eq_ok_iff_derived (source : String) :
    (∀ q, Query.read source = .ok q ↔
      ∃ tree : QueryTree, tree.text = source.toList ∧ q = ⟨tree.groups⟩) ∧
    (∀ tree tree' : QueryTree,
      tree.text = source.toList → tree'.text = source.toList → tree = tree') := by
  refine ⟨fun q => ⟨exists_tree_of_read, ?_⟩, ?_⟩
  · rintro ⟨tree, htext, rfl⟩
    exact read_text htext
  · intro tree tree' h h'
    exact QueryTree.text_injective (h.trans h'.symm)

end BoardRelay.Tags
