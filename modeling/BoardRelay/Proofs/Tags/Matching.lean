/-
  BoardRelay.Proofs.Tags.Matching
  ────────────────────────────────
  Which texts a tag expression selects, said by its derivation tree:

      (compile source).matches text
        ↔  ∃ tree, tree.text = source ∧ ∃ group ∈ tree.conjunctions, group.Holds text

  and that neither side notices the case of ASCII letters.  The reader
  commutes with lowering its input (`readGroups_lower`), so two expressions
  that differ in case alone compile to one query.
-/
import BoardRelay.Proofs.Tags.Grammar
import BoardRelay.Proofs.Text.Lowercase

namespace BoardRelay.Tags

open BoardRelay.Text

/-! ## §1. What a derivation asks of a text. -/

/-- The atoms of a conjunction in order. -/
def GroupTree.leaves : GroupTree → List AtomTree
  | .atom first _ => [first]
  | .and first _ rest => first :: rest.leaves

/-- The conjunctions of an expression in order. -/
def QueryTree.conjunctions : QueryTree → List GroupTree
  | .group first => [first]
  | .or first rest => first :: rest.conjunctions

/-- Whether the keyword of an atom is part of a text, case ignored. -/
def AtomTree.Occurs (text : List Char) (a : AtomTree) : Prop :=
  lowercase a.keyword.val <:+: lowercase text

/-- Whether a text has every plain keyword of a conjunction and none of the
negated ones. -/
def GroupTree.Holds (text : List Char) (g : GroupTree) : Prop :=
  (∀ a ∈ g.leaves, a.negated = false → a.Occurs text) ∧
    ∀ a ∈ g.leaves, a.negated = true → ¬a.Occurs text

/-- Whether some conjunction of an expression holds of a text. -/
def QueryTree.Holds (text : List Char) (tree : QueryTree) : Prop :=
  ∃ g ∈ tree.conjunctions, g.Holds text

/-- The atoms of a group are those of its leaves. -/
theorem GroupTree.atoms_eq (g : GroupTree) : g.atoms = g.leaves.map AtomTree.atom := by
  induction g with
  | atom first after => rfl
  | and first after rest ih => rw [GroupTree.atoms, ih]; rfl

/-- The groups of a query are those of its conjunctions. -/
theorem QueryTree.groups_eq (tree : QueryTree) :
    tree.groups = tree.conjunctions.map GroupTree.atoms := by
  induction tree with
  | group first => rfl
  | or first rest ih => rw [QueryTree.groups, ih]; rfl

theorem AtomTree.holds_iff {text : List Char} {a : AtomTree} :
    a.atom.holds (lowercase text) = true ↔
      (a.negated = false → a.Occurs text) ∧ (a.negated = true → ¬a.Occurs text) := by
  rw [AtomTree.Occurs, ← occurs_iff, Atom.holds, AtomTree.atom]
  cases a.negated <;> simp

theorem GroupTree.holds_iff {text : List Char} {g : GroupTree} :
    g.atoms.all (Atom.holds (lowercase text)) = true ↔ g.Holds text := by
  simp only [GroupTree.atoms_eq, List.all_map, List.all_eq_true, Function.comp_apply,
    AtomTree.holds_iff]
  exact forall₂_and

theorem QueryTree.matches_iff {text : String} {tree : QueryTree} :
    (Query.mk tree.groups).matches text = true ↔ tree.Holds text.toList := by
  simp only [Query.matches, QueryTree.groups_eq, List.any_map, List.any_eq_true,
    Function.comp_apply, GroupTree.holds_iff]
  rfl

/-- The derivation of an expression that is a single atom without blanks. -/
def QueryTree.single (negated : Bool) (keyword : Keyword) : QueryTree :=
  .group (.atom ⟨.none, negated, keyword⟩ .none)

theorem QueryTree.text_single (negated : Bool) (keyword : Keyword) :
    (QueryTree.single negated keyword).text =
      sign negated ++ '"' :: (keyword.val ++ ['"']) := by
  simp [QueryTree.single, QueryTree.text, GroupTree.text, AtomTree.text]

/-! ## §2. Reading in lower case. -/

/-- A problem of a text as it shows in the text in lower case. -/
def ReadError.lower : ReadError → ReadError
  | .expectedQuote found pos => .expectedQuote found.toLower pos
  | .unexpectedChar found pos => .unexpectedChar found.toLower pos
  | e => e

/-- The rest of an input in lower case. -/
def Input.lower (i : Input) : Input :=
  ⟨i.pos, asciiLower i.rest⟩

theorem utf8Size_toLower (c : Char) : c.toLower.utf8Size = c.utf8Size :=
  apply_toLower Char.utf8Size (by decide) c

theorem byteLength_asciiLower (s : List Char) : byteLength (asciiLower s) = byteLength s := by
  induction s with
  | nil => rfl
  | cons c s ih => rw [asciiLower_cons, byteLength_cons, byteLength_cons, ih, utf8Size_toLower]

theorem Input.skipBlanks_lower (i : Input) : i.lower.skipBlanks = i.skipBlanks.lower := by
  have hblank : isBlank ∘ Char.toLower = isBlank := funext isBlank_toLower
  simp only [Input.skipBlanks, Input.lower, asciiLower, List.takeWhile_map, List.dropWhile_map,
    hblank]
  rw [← asciiLower, byteLength_asciiLower]

theorem cut?_asciiLower (s : List Char) :
    cut? '"' (asciiLower s) = (cut? '"' s).map (Prod.map asciiLower asciiLower) := by
  induction s with
  | nil => rfl
  | cons c s ih =>
    simp only [asciiLower_cons, cut?, toLower_eq_iff '"' rfl, ih]
    split
    · rfl
    · rw [Option.map_map, Option.map_map]
      rfl

theorem readKeyword_lower (negated : Bool) (i : Input) :
    readKeyword negated i.lower =
      ((readKeyword negated i).map (Prod.map id Input.lower)).mapError ReadError.lower := by
  obtain ⟨pos, rest⟩ := i
  cases rest with
  | nil => rfl
  | cons c inside =>
    -- the quote is no letter, so both readings cut at the same place
    simp only [readKeyword, Input.lower, asciiLower_cons, toLower_eq_iff '"' rfl, cut?_asciiLower]
    by_cases hc : c = '"'
    · cases cut? '"' inside with
      | none => simp [hc, Except.map, Except.mapError, ReadError.lower]
      | some parts =>
        by_cases hempty : parts.1 = []
        · simp [hc, hempty, Except.map, Except.mapError, ReadError.lower, asciiLower]
        · have hlowered : asciiLower parts.1 ≠ [] := by simpa [asciiLower] using hempty
          simp [hc, hempty, hlowered, Except.map, Except.mapError, Input.lower,
            lowercase_asciiLower, byteLength_asciiLower]
    · simp [hc, Except.map, Except.mapError, ReadError.lower]

theorem readAtom_eq (i : Input) :
    readAtom i =
      if i.skipBlanks.rest.head? = some '!' then
        readKeyword true ⟨i.skipBlanks.pos + 1, i.skipBlanks.rest.tail⟩
      else readKeyword false i.skipBlanks := by
  unfold readAtom
  dsimp only
  split
  · next rest hrest => simp [hrest]
  · next hnot =>
    rw [if_neg]
    intro hhead
    obtain ⟨rest, hrest⟩ := List.head?_eq_some_iff.mp hhead
    exact hnot rest hrest

theorem readAtom_lower (i : Input) :
    readAtom i.lower =
      ((readAtom i).map (Prod.map id Input.lower)).mapError ReadError.lower := by
  -- lowering neither makes nor removes an exclamation mark
  have hhead : i.skipBlanks.lower.rest.head? = some '!' ↔ i.skipBlanks.rest.head? = some '!' := by
    simp only [Input.lower, asciiLower, List.head?_map, Option.map_eq_some_iff]
    constructor
    · rintro ⟨c, hc, hlower⟩
      rwa [(toLower_eq_iff '!' rfl c).mp hlower] at hc
    · intro hbang
      exact ⟨'!', hbang, by decide⟩
  rw [readAtom_eq, readAtom_eq, Input.skipBlanks_lower]
  by_cases hbang : i.skipBlanks.rest.head? = some '!'
  · rw [if_pos hbang, if_pos (hhead.mpr hbang), ← readKeyword_lower]
    simp [Input.lower, asciiLower]
  · rw [if_neg hbang, if_neg (hhead.not.mpr hbang), readKeyword_lower]

/-- What follows an atom is read alike if the groups behind an operator are. -/
theorem readMore_lower {a : Atom} {i : Input}
    (h : ∀ c rest, i.rest = c :: rest →
      readGroups (Input.mk (i.pos + 1) rest).lower =
        (readGroups ⟨i.pos + 1, rest⟩).mapError ReadError.lower) :
    readMore a i.lower = (readMore a i).mapError ReadError.lower := by
  obtain ⟨pos, rest⟩ := i
  cases rest with
  | nil => rfl
  | cons c rest =>
    have hrest := h c rest rfl
    -- the hypothesis is put at the input behind the blanks, where the recursion is taken
    rw [← readGroups_skipBlanks, Input.skipBlanks_lower, ← readGroups_skipBlanks ⟨pos + 1, rest⟩]
      at hrest
    simp only [readMore, Input.lower, asciiLower_cons, toLower_eq_iff '&' rfl,
      toLower_eq_iff '|' rfl]
    rw [show (⟨pos + 1, asciiLower rest⟩ : Input) = (Input.mk (pos + 1) rest).lower from rfl,
      Input.skipBlanks_lower]
    generalize (Input.mk (pos + 1) rest).skipBlanks = next at hrest ⊢
    -- after an operator more must follow; anything else here is an error, and the same one
    by_cases hc : c = '&' ∨ c = '|'
    · rw [if_pos hc, if_pos hc]
      by_cases hnext : next.rest = []
      · simp [Input.lower, asciiLower, hnext, Except.mapError, ReadError.lower]
      · have hlowered : ¬next.lower.rest.isEmpty = true := by
          simpa [Input.lower, asciiLower] using hnext
        rw [if_neg hlowered, if_neg (by simpa using hnext), hrest]
        cases readGroups next <;> rfl
    · rw [if_neg hc, if_neg hc]
      rfl

/-- Lowering the input lowers the character that a problem names and changes
nothing else. -/
theorem readGroups_lower (i : Input) :
    readGroups i.lower = (readGroups i).mapError ReadError.lower := by
  -- by the length of the input: what follows an atom is shorter
  induction hlength : i.rest.length using Nat.strong_induction_on generalizing i with
  | h length ih =>
    rw [readGroups_eq, readGroups_eq, readAtom_lower]
    cases hatom : readAtom i with
    | error e => rfl
    | ok found =>
      obtain ⟨a, after⟩ := found
      show readMore a after.lower.skipBlanks = (readMore a after.skipBlanks).mapError _
      rw [Input.skipBlanks_lower]
      apply readMore_lower
      intro c rest hrest
      refine ih rest.length ?_ ⟨after.skipBlanks.pos + 1, rest⟩ rfl
      have hafter := readAtom_length_lt hatom
      have hskip := after.skipBlanks_length_le
      rw [hrest, List.length_cons] at hskip
      omega

theorem allBlank_asciiLower (s : List Char) : allBlank (asciiLower s) = allBlank s := by
  have hblank : isBlank ∘ Char.toLower = isBlank := funext isBlank_toLower
  rw [allBlank, asciiLower, List.all_map, hblank]
  rfl

theorem read_asciiLower (source : String) :
    Query.read (String.ofList (asciiLower source.toList)) =
      (Query.read source).mapError ReadError.lower := by
  rw [Query.read, Query.read, String.toList_ofList, allBlank_asciiLower]
  split
  · rfl
  · rw [show (⟨0, asciiLower source.toList⟩ : Input) = (Input.mk 0 source.toList).lower from rfl,
      readGroups_lower]
    cases readGroups ⟨0, source.toList⟩ <;> rfl

theorem compile_asciiLower (source : String) :
    Query.compile (String.ofList (asciiLower source.toList)) = Query.compile source := by
  rw [Query.compile, Query.compile, read_asciiLower]
  cases Query.read source <;> rfl

theorem matches_congr (q : Query) {text text' : String}
    (h : asciiLower text.toList = asciiLower text'.toList) : q.matches text = q.matches text' := by
  rw [Query.matches, Query.matches, ← lowercase_asciiLower, h, lowercase_asciiLower]

theorem compile_congr {source source' : String}
    (h : asciiLower source.toList = asciiLower source'.toList) :
    Query.compile source = Query.compile source' := by
  rw [← compile_asciiLower, h, compile_asciiLower]

/-! ## §3. The compiled query. -/

theorem matches_compile_iff {source text : String} :
    (Query.compile source).matches text = true ↔
      ∃ tree : QueryTree, tree.text = source.toList ∧ tree.Holds text.toList := by
  constructor
  · intro hmatches
    rw [Query.compile] at hmatches
    -- what cannot be read compiles to the query that matches nothing
    cases hread : Query.read source with
    | error e =>
      rw [hread] at hmatches
      exact absurd hmatches (by simp [Query.never, Query.matches])
    | ok q =>
      obtain ⟨tree, htext, rfl⟩ := exists_tree_of_read hread
      rw [hread] at hmatches
      exact ⟨tree, htext, QueryTree.matches_iff.mp hmatches⟩
  · rintro ⟨tree, htext, hholds⟩
    rw [Query.compile, read_text htext]
    exact QueryTree.matches_iff.mpr hholds

/-- A compiled expression selects a text if and only if the grammar derives
the expression and some conjunction of its derivation has every plain keyword
and no negated one in the text.  An expression that the grammar does not
derive selects nothing.  The case of ASCII letters in either is without
effect. -/
theorem compile_selects (source : String) :
    (∀ text : String, (Query.compile source).matches text = true ↔
      ∃ tree : QueryTree, tree.text = source.toList ∧ tree.Holds text.toList) ∧
    ((∀ tree : QueryTree, tree.text ≠ source.toList) →
      ∀ text : String, (Query.compile source).matches text = false) ∧
    ∀ source' text text' : String,
      asciiLower source'.toList = asciiLower source.toList →
      asciiLower text'.toList = asciiLower text.toList →
      (Query.compile source').matches text' = (Query.compile source).matches text := by
  refine ⟨fun text => matches_compile_iff, ?_, ?_⟩
  · intro hnone text
    rw [← Bool.not_eq_true, matches_compile_iff]
    rintro ⟨tree, htext, -⟩
    exact hnone tree htext
  · intro source' text text' hsource htext
    -- neither the query nor the text is told apart by the case of its letters
    rw [compile_congr hsource, matches_congr _ htext]

end BoardRelay.Tags
