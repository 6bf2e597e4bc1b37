/-
  BoardRelay.Proofs.Subscription.Request
  ────────────────────────────────
  The two languages of requests.  A personal and a shared request are

      before board ' ' kinds ' ' gap tags after
      before board ' ' kinds ' ' gap tags between alias after

  with blanks before, in the gap, between and after; each is accepted exactly
  if its parts are sound (`ofRequest_eq_ok_iff`, `ofSharedRequest_eq_ok_iff`).
  The last visible character tells the two apart: the tags of a request end
  in a quote, and an alias has none.
-/
import BoardRelay.Subscription.Request
import BoardRelay.Proofs.Tags.Grammar

namespace BoardRelay.Subscription

open BoardRelay.Text
open BoardRelay.Tags (Blanks Query QueryTree)

/-! ## §1. Sound parts. -/

/-- A word of letters, digits and underscores. -/
def BoardWord (s : List Char) : Prop :=
  s ≠ [] ∧ ∀ c ∈ s, c.isAlphanum = true ∨ c = '_'

/-- A word of letters and digits. -/
def KindWord (s : List Char) : Prop :=
  s ≠ [] ∧ ∀ c ∈ s, c.isAlphanum = true

/-- One or more words of letters and digits, each with a dot in front. -/
def DottedWords (s : List Char) : Prop :=
  ∃ words : List (List Char), words ≠ [] ∧ (∀ word ∈ words, KindWord word) ∧
    s = words.flatMap ('.' :: ·)

/-- A word without quotes. -/
def AliasWord (s : List Char) : Prop :=
  s ≠ [] ∧ ∀ c ∈ s, isBlank c = false ∧ c ≠ '"'

/-- A subscription with all the parts that a request states and no number
yet. -/
structure Sound (s : Subscription) : Prop where
  id : s.id = 0
  board : BoardWord s.board.toList
  kinds : DottedWords s.kinds.toList
  tags : Trimmed s.tags.toList
  derived : ∃ tree : QueryTree, tree.text = s.tags.toList

/-- A sound subscription of one user. -/
structure Personal (s : Subscription) : Prop extends Sound s where
  aliasName : s.aliasName = ""
  shared : s.shared = false

/-- A sound subscription that users join by its alias. -/
structure Shared (s : Subscription) : Prop extends Sound s where
  aliasName : AliasWord s.aliasName.toList
  shared : s.shared = true

/-- The check of a board name asks for a word of letters, digits and dashes. -/
theorem isBoardName_iff {s : List Char} : isBoardName s = true ↔ BoardWord s := by
  simp [isBoardName, BoardWord, isBoardChar]

/-- The check of a list of kinds asks for words with a dot before each. -/
theorem isKindList_iff {s : List Char} : isKindList s = true ↔ DottedWords s := by
  have hword : ∀ word : List Char,
      (!word.isEmpty && word.all Char.isAlphanum) = true ↔ KindWord word := by
    intro word
    simp [KindWord]
  constructor
  · intro h
    unfold isKindList at h
    split at h
    · next rest =>
      rw [List.all_eq_true] at h
      exact ⟨pieces '.' rest, pieces_ne_nil '.' rest,
        fun word hmem => (hword word).mp (h word hmem), (flatMap_pieces '.' rest).symm⟩
    · exact absurd h (by simp)
  · rintro ⟨words, hne, hwords, rfl⟩
    -- without dots of their own the words are the pieces
    have hdot : ∀ word ∈ words, '.' ∉ word := by
      intro word hmem hdot
      exact absurd ((hwords word hmem).2 '.' hdot) (by decide)
    cases words with
    | nil => exact absurd rfl hne
    | cons word words =>
      rw [List.forall_mem_cons] at hdot
      rw [List.flatMap_cons, List.cons_append, isKindList, pieces_flatMap hdot.1 hdot.2,
        List.all_eq_true]
      exact fun word hmem => (hword word).mpr (hwords word hmem)

theorem BoardWord.not_blank {s : List Char} (h : BoardWord s) :
    ∀ c ∈ s, isBlank c = false := by
  intro c hc
  rcases h.2 c hc with halnum | rfl
  · exact isBlank_of_isAlphanum halnum
  · decide

theorem DottedWords.not_blank {s : List Char} (h : DottedWords s) :
    ∀ c ∈ s, isBlank c = false := by
  obtain ⟨words, -, hwords, rfl⟩ := h
  intro c hc
  obtain ⟨word, hmem, hc⟩ := List.mem_flatMap.mp hc
  rcases List.mem_cons.mp hc with rfl | hc
  · decide
  · exact isBlank_of_isAlphanum ((hwords word hmem).2 c hc)

theorem AliasWord.not_blank {s : List Char} (h : AliasWord s) : ∀ c ∈ s, isBlank c = false :=
  fun c hc => (h.2 c hc).1

/-- A text that ends in an alias ends neither in a blank nor in a quote. -/
theorem AliasWord.last_append {s : List Char} (h : AliasWord s) (front : List Char) :
    ∀ c ∈ (front ++ s).getLast?, isBlank c = false ∧ c ≠ '"' := by
  intro c hc
  rw [List.getLast?_append_of_ne_nil front h.1] at hc
  exact h.2 c (List.mem_of_mem_getLast? hc)

theorem space_not_mem {s : List Char} (h : ∀ c ∈ s, isBlank c = false) : ' ' ∉ s := by
  intro hmem
  exact absurd (h ' ' hmem) (by decide)

theorem last_quote (front : List Char) : ∀ c ∈ (front ++ ['"']).getLast?, isBlank c = false := by
  intro c hc
  rw [List.getLast?_concat] at hc
  obtain rfl : '"' = c := Option.some.inj hc
  decide

/-- Trimmed tags end in the quote of their last keyword. -/
theorem Sound.exists_quote {s : Subscription} (h : Sound s) :
    ∃ front, s.tags.toList = front ++ ['"'] := by
  obtain ⟨tree, htree⟩ := h.derived
  obtain ⟨front, after, htext⟩ := tree.exists_quote
  -- trimmed tags have no blanks behind the quote
  have heq : s.tags.toList ++ [] = (front ++ ['"']) ++ after.val := by
    rw [List.append_nil, ← htree, htext, ← List.append_cons]
  exact ⟨front, (append_blanks_inj h.tags.last (last_quote front) Blanks.none.property
    after.property heq).1⟩

theorem Sound.tags_ne_nil {s : Subscription} (h : Sound s) : s.tags.toList ≠ [] := by
  obtain ⟨front, hfront⟩ := h.exists_quote
  rw [hfront]
  simp

/-! ## §2. Cutting a request. -/

/-- What stands before the tags of a request. -/
def heading (before gap : Blanks) (board kinds : List Char) : List Char :=
  before.val ++ (board ++ ' ' :: (kinds ++ ' ' :: gap.val))

/-- A request is cut at its first two spaces, and the rest is trimmed. -/
theorem split_eq_ok_iff {request : String} {board kinds rest : List Char} :
    split request = .ok (board, kinds, rest) ↔
      ∃ behind, trim request.toList = board ++ ' ' :: (kinds ++ ' ' :: behind) ∧
        ' ' ∉ board ∧ ' ' ∉ kinds ∧ trim behind = rest ∧ rest ≠ [] := by
  constructor
  · intro h
    unfold split at h
    cases hboard : cut? ' ' (trim request.toList) with
    | none => simp [hboard] at h
    | some first =>
      obtain ⟨word, others⟩ := first
      cases hkinds : cut? ' ' others with
      | none => simp [hboard, hkinds] at h
      | some second =>
        obtain ⟨word', behind⟩ := second
        -- both words are cut at the first blank behind them, so neither has one inside
        obtain ⟨hrequest, hnot⟩ := cut?_eq_some_iff.mp hboard
        obtain ⟨rfl, hnot'⟩ := cut?_eq_some_iff.mp hkinds
        by_cases hblank : allBlank behind = true
        · simp [hboard, hkinds, hblank] at h
        · simp only [hboard, hkinds, hblank, Option.bind_eq_bind, Option.bind_some,
            Bool.false_eq_true, if_false, Except.ok.injEq, Prod.mk.injEq] at h
          obtain ⟨rfl, rfl, rfl⟩ := h
          exact ⟨behind, hrequest, hnot, hnot', rfl, fun hnil => hblank (trim_eq_nil_iff.mp hnil)⟩
  · rintro ⟨behind, hrequest, hboard, hkinds, rfl, hne⟩
    have hblank : ¬allBlank behind = true := fun h => hne (trim_eq_nil_iff.mpr h)
    have hfirst := cut?_eq_some_iff.mpr ⟨hrequest, hboard⟩
    have hsecond : cut? ' ' (kinds ++ ' ' :: behind) = some (kinds, behind) :=
      cut?_eq_some_iff.mpr ⟨rfl, hkinds⟩
    simp [split, hfirst, hsecond, hblank]

/-- The texts of which a cut makes a board name, kinds and a rest. -/
theorem split_eq_ok_iff_heading {request : String} {board kinds rest : List Char}
    (hboard : BoardWord board) (hkinds : DottedWords kinds) :
    split request = .ok (board, kinds, rest) ↔
      Trimmed rest ∧ rest ≠ [] ∧ ∃ before gap after : Blanks,
        request.toList = heading before gap board kinds ++ (rest ++ after.val) := by
  rw [split_eq_ok_iff]
  constructor
  · rintro ⟨behind, hrequest, -, -, rfl, hne⟩
    obtain ⟨before, after, hends, hbefore, hafter⟩ := exists_trim request.toList
    obtain ⟨gap, after', hrest, hgap, hafter'⟩ := exists_trim behind
    refine ⟨trimmed_trim behind, hne, ⟨before, hbefore⟩, ⟨gap, hgap⟩,
      ⟨after' ++ after, List.forall_mem_append.mpr ⟨hafter', hafter⟩⟩, ?_⟩
    rw [hends, hrequest]
    conv_lhs => rw [hrest]
    simp [heading]
  · rintro ⟨htrimmed, hne, before, gap, after, hrequest⟩
    have hbehind : trim (gap.val ++ rest) = rest := by
      have htrim := trim_append gap.property htrimmed hne (List.forall_mem_nil _)
      rwa [List.append_nil] at htrim
    refine ⟨gap.val ++ rest, ?_, space_not_mem hboard.not_blank, space_not_mem hkinds.not_blank,
      hbehind, hne⟩
    -- a board name and the rest enclose all that is not trimmed off
    have henclosed := (trimmed_of_not_blank hboard.not_blank).enclose htrimmed hboard.1 hne
      (' ' :: (kinds ++ ' ' :: gap.val))
    have htrim := trim_append before.property henclosed (by simp) after.property
    rw [hrequest, heading]
    simpa using htrim

/-- **The alias is what stands behind the last quote.** -/
theorem splitAlias_append_quote {front behind : List Char} (h : '"' ∉ behind) :
    splitAlias (front ++ '"' :: behind) =
      if (trim behind).isEmpty || (trim behind).any isBlank then .error (.invalid .aliasShape)
      else .ok (front ++ ['"'], trim behind) := by
  have htake : (front ++ '"' :: behind).take ((front ++ '"' :: behind).length - behind.length) =
      front ++ ['"'] := by
    rw [List.append_cons, List.length_append, Nat.add_sub_cancel, List.take_left]
  rw [splitAlias, afterLast?_append_cons h]
  dsimp only
  rw [htake]

/-- A quote behind which no other stands, and the word behind it. -/
theorem splitAlias_eq_ok_iff {rest tags aliasName : List Char} :
    splitAlias rest = .ok (tags, aliasName) ↔
      AliasWord aliasName ∧ (∃ front, tags = front ++ ['"']) ∧ ∃ between after : Blanks,
        rest = tags ++ (between.val ++ (aliasName ++ after.val)) := by
  have hword : ∀ s : List Char,
      ¬(s.isEmpty || s.any isBlank) = true ↔ s ≠ [] ∧ ∀ c ∈ s, isBlank c = false := by
    intro s
    simp
  constructor
  · intro h
    cases hlast : afterLast? ['"'] rest with
    | none => simp [splitAlias, hlast] at h
    | some behind =>
      -- the tags end with the last quote there is, which is why the alias has none
      obtain ⟨front, rfl, hquote⟩ := afterLast?_eq_some_iff.mp hlast
      obtain ⟨between, after, hbehind, hbetween, hafter⟩ := exists_trim behind
      rw [splitAlias_append_quote hquote] at h
      split at h
      · exact absurd h (by simp)
      · next hnot =>
        obtain ⟨rfl, rfl⟩ := Prod.mk.inj (Except.ok.inj h)
        obtain ⟨hne, hblank⟩ := (hword _).mp hnot
        refine ⟨⟨hne, fun c hc => ⟨hblank c hc, ?_⟩⟩, ⟨front, rfl⟩, ⟨between, hbetween⟩,
          ⟨after, hafter⟩, ?_⟩
        · rintro rfl
          exact hquote (by rw [hbehind]; simp [hc])
        · rw [← hbehind, ← List.append_cons]
  · rintro ⟨halias, ⟨front, rfl⟩, between, after, rfl⟩
    -- conversely, nothing behind the tags has a quote, so the last one is theirs
    have hquote : '"' ∉ between.val ++ (aliasName ++ after.val) := by
      simp only [List.mem_append, not_or]
      exact ⟨between.quote_not_mem, fun hmem => (halias.2 '"' hmem).2 rfl, after.quote_not_mem⟩
    rw [← List.append_cons, splitAlias_append_quote hquote,
      trim_append between.property (trimmed_of_not_blank halias.not_blank) halias.1 after.property,
      if_neg ((hword aliasName).mpr ⟨halias.1, halias.not_blank⟩)]

/-! ## §3. The two readers. -/

theorem bind_eq_ok_iff {ε α β : Type} {x : Except ε α} {f : α → Except ε β} {b : β} :
    x >>= f = .ok b ↔ ∃ a, x = .ok a ∧ f a = .ok b := by
  cases x with
  | error e => simp [bind, Except.bind]
  | ok a => simp [bind, Except.bind]

/-- What the parts of a request are checked for. -/
theorem build_eq_ok_iff {board kinds tags aliasName : List Char} {shared : Bool}
    {s : Subscription} :
    build board kinds tags aliasName shared = .ok s ↔
      (BoardWord board ∧ DottedWords kinds ∧ ∃ tree : QueryTree, tree.text = tags) ∧
        s.id = 0 ∧ s.board.toList = board ∧ s.kinds.toList = kinds ∧ s.tags.toList = tags ∧
        s.aliasName.toList = aliasName ∧ s.shared = shared := by
  have hread : (∃ tree : QueryTree, tree.text = tags) ↔
      ∃ q, Query.read (String.ofList tags) = .ok q := by
    rw [← Tags.exists_tree_iff_read, String.toList_ofList]
  -- a subscription is its fields
  have hfields : (⟨0, String.ofList board, String.ofList tags, String.ofList kinds,
      String.ofList aliasName, shared⟩ : Subscription) = s ↔
      s.id = 0 ∧ s.board.toList = board ∧ s.kinds.toList = kinds ∧ s.tags.toList = tags ∧
        s.aliasName.toList = aliasName ∧ s.shared = shared := by
    constructor
    · rintro rfl
      simp
    · obtain ⟨id, board', tags', kinds', alias', shared'⟩ := s
      rintro ⟨rfl, rfl, rfl, rfl, rfl, rfl⟩
      simp
  rw [hread, ← hfields, build, ← isBoardName_iff, ← isKindList_iff]
  cases isBoardName board with
  | false => simp
  | true =>
    cases isKindList kinds with
    | false => simp
    | true => cases Query.read (String.ofList tags) <;> simp

/-- Exactly the texts of which a personal request is read. -/
theorem ofRequest_eq_ok_iff {request : String} {s : Subscription} :
    ofRequest request = .ok s ↔
      Personal s ∧ ∃ before gap after : Blanks,
        request.toList =
          heading before gap s.board.toList s.kinds.toList ++ (s.tags.toList ++ after.val) := by
  rw [ofRequest, bind_eq_ok_iff]
  constructor
  · rintro ⟨⟨board, kinds, tags⟩, hsplit, hbuild⟩
    obtain ⟨⟨hboard, hkinds, hderived⟩, hid, rfl, rfl, rfl, halias, hshared⟩ :=
      build_eq_ok_iff.mp hbuild
    obtain ⟨htags, -, htext⟩ := (split_eq_ok_iff_heading hboard hkinds).mp hsplit
    exact ⟨⟨⟨hid, hboard, hkinds, htags, hderived⟩, String.toList_eq_nil_iff.mp halias, hshared⟩,
      htext⟩
  · rintro ⟨hs, htext⟩
    have hsplit := (split_eq_ok_iff_heading hs.board hs.kinds).mpr ⟨hs.tags, hs.tags_ne_nil, htext⟩
    refine ⟨_, hsplit, build_eq_ok_iff.mpr ⟨⟨hs.board, hs.kinds, hs.derived⟩, hs.id, rfl, rfl, rfl,
      ?_, hs.shared⟩⟩
    rw [hs.aliasName]
    rfl

/-- Exactly the texts of which a shared request is read. -/
theorem ofSharedRequest_eq_ok_iff {request : String} {s : Subscription} :
    ofSharedRequest request = .ok s ↔
      Shared s ∧ ∃ before gap between after : Blanks,
        request.toList = heading before gap s.board.toList s.kinds.toList ++
          (s.tags.toList ++ (between.val ++ (s.aliasName.toList ++ after.val))) := by
  simp only [ofSharedRequest, bind_eq_ok_iff]
  constructor
  · rintro ⟨⟨board, kinds, rest⟩, hsplit, ⟨tags, aliasName⟩, halias, hbuild⟩
    obtain ⟨⟨hboard, hkinds, hderived⟩, hid, rfl, rfl, rfl, rfl, hshared⟩ :=
      build_eq_ok_iff.mp hbuild
    obtain ⟨hword, ⟨front, hfront⟩, between, after', rfl⟩ := splitAlias_eq_ok_iff.mp halias
    obtain ⟨hrest, -, before, gap, after, htext⟩ :=
      (split_eq_ok_iff_heading hboard hkinds).mp hsplit
    -- the tags begin as the rest does, and end in a quote
    have htags : Trimmed s.tags.toList := by
      refine hrest.of_append ?_
      rw [hfront]
      exact last_quote front
    refine ⟨⟨⟨hid, hboard, hkinds, htags, hderived⟩, hword, hshared⟩, before, gap, between,
      after'.append after, ?_⟩
    rw [htext]
    simp
  · rintro ⟨hs, before, gap, between, after, htext⟩
    -- the tags and the alias enclose what is between
    have hrest := hs.tags.enclose (trimmed_of_not_blank hs.aliasName.not_blank) hs.tags_ne_nil
      hs.aliasName.1 between.val
    have hsplit : split request = .ok (s.board.toList, s.kinds.toList,
        s.tags.toList ++ (between.val ++ s.aliasName.toList)) := by
      refine (split_eq_ok_iff_heading hs.board hs.kinds).mpr
        ⟨hrest, by simp [hs.tags_ne_nil], before, gap, after, ?_⟩
      rw [htext]
      simp
    have halias : splitAlias (s.tags.toList ++ (between.val ++ s.aliasName.toList)) =
        .ok (s.tags.toList, s.aliasName.toList) :=
      splitAlias_eq_ok_iff.mpr ⟨hs.aliasName, hs.exists_quote, between, .none, by simp⟩
    exact ⟨_, hsplit, _, halias, build_eq_ok_iff.mpr
      ⟨⟨hs.board, hs.kinds, hs.derived⟩, hs.id, rfl, rfl, rfl, rfl, hs.shared⟩⟩

/-! ## §4. Canonical texts. -/

/-- The text `board kinds tags`. -/
def personalText (s : Subscription) : String :=
  s.board ++ " " ++ s.kinds ++ " " ++ s.tags

/-- The text `board kinds tags alias`. -/
def sharedText (s : Subscription) : String :=
  personalText s ++ " " ++ s.aliasName

/-- That what is read has the parts asked for, its tags being compiled to what
they are read as, and that it can be read again from its text, as can
everything else with such parts. -/
structure Canonical (read : String → Except Error Subscription) (Asked : Subscription → Prop)
    (text : Subscription → String) : Prop where
  asked {request s} : read request = .ok s → Asked s
  compiled {request s} : read request = .ok s →
    Query.read s.tags = .ok (Query.compile s.tags) ∧ (Query.compile s.tags).groups ≠ [] ∧
      Query.compile s.tags ≠ Query.never
  again {request s} : read request = .ok s → read (text s) = .ok s
  accepted {s} : Asked s → ∀ before after : Blanks,
    read (String.ofList (before.val ++ ((text s).toList ++ after.val))) = .ok s

/-- The tags of a sound subscription compile to a query that is not the one
that never matches. -/
theorem Sound.compiled {s : Subscription} (h : Sound s) :
    Query.read s.tags = .ok (Query.compile s.tags) ∧ (Query.compile s.tags).groups ≠ [] ∧
      Query.compile s.tags ≠ Query.never := by
  obtain ⟨tree, htext⟩ := h.derived
  have hread := Tags.read_text htext
  have hcompile : Query.compile s.tags = ⟨tree.groups⟩ := by
    rw [Query.compile, hread]
  have hgroups : tree.groups ≠ [] := by
    cases tree <;> simp [QueryTree.groups]
  rw [hcompile]
  exact ⟨hread, hgroups, fun hnever => hgroups (congrArg Query.groups hnever)⟩

/-- A reader that takes the sound texts between blanks takes its own. -/
theorem Canonical.of_accepted {read : String → Except Error Subscription}
    {Asked : Subscription → Prop} {text : Subscription → String}
    (hasked : ∀ {request s}, read request = .ok s → Asked s) (hsound : ∀ {s}, Asked s → Sound s)
    (haccepted : ∀ {s}, Asked s → ∀ before after : Blanks,
      read (String.ofList (before.val ++ ((text s).toList ++ after.val))) = .ok s) :
    Canonical read Asked text where
  asked := hasked
  compiled h := (hsound (hasked h)).compiled
  again {request s} h := by
    have hread := haccepted (hasked h) .none .none
    rwa [Blanks.val_none, List.nil_append, List.append_nil, String.ofList_toList] at hread
  accepted := haccepted

/-- The reader and the writer of personal requests fit together. -/
theorem canonical_ofRequest : Canonical ofRequest Personal personalText := by
  refine .of_accepted (fun h => (ofRequest_eq_ok_iff.mp h).1) (fun h => h.toSound) ?_
  intro s hs before after
  refine ofRequest_eq_ok_iff.mpr ⟨hs, before, .none, after, ?_⟩
  simp [heading, personalText]

theorem canonical_ofSharedRequest : Canonical ofSharedRequest Shared sharedText := by
  refine .of_accepted (fun h => (ofSharedRequest_eq_ok_iff.mp h).1) (fun h => h.toSound) ?_
  intro s hs before after
  -- the one blank before the alias is among those that the reader skips
  have hspace : ∀ c ∈ [' '], isBlank c = true := List.forall_mem_singleton.mpr (by decide)
  refine ofSharedRequest_eq_ok_iff.mpr ⟨hs, before, .none, ⟨[' '], hspace⟩, after, ?_⟩
  simp [heading, sharedText, personalText]

/-- A shared request without its alias is a personal one. -/
theorem ofRequest_of_ofSharedRequest {request : String} {s : Subscription}
    (h : ofSharedRequest request = .ok s) {front : List Char} {after : Blanks}
    (hrequest : request.toList = front ++ (s.aliasName.toList ++ after.val)) :
    ofRequest (String.ofList (front ++ after.val)) =
      .ok { s with aliasName := "", shared := false } := by
  obtain ⟨hs, before, gap, between, after', htext⟩ := ofSharedRequest_eq_ok_iff.mp h
  -- the text ends in the alias in both readings, so it begins alike
  have hends : (front ++ s.aliasName.toList) ++ after.val =
      (heading before gap s.board.toList s.kinds.toList ++ (s.tags.toList ++ between.val) ++
        s.aliasName.toList) ++ after'.val := by
    rw [List.append_assoc, ← hrequest, htext]
    simp
  obtain ⟨halias, hafter⟩ := append_blanks_inj
    (fun c hc => (hs.aliasName.last_append _ c hc).1)
    (fun c hc => (hs.aliasName.last_append _ c hc).1) after.property after'.property hends
  refine ofRequest_eq_ok_iff.mpr
    ⟨⟨⟨hs.id, hs.board, hs.kinds, hs.tags, hs.derived⟩, rfl, rfl⟩, before, gap,
      between.append after, ?_⟩
  rw [String.toList_ofList, List.append_cancel_right halias]
  simp

/-- The last visible character of a personal request is a quote, and that of
a shared request is none. -/
theorem ofSharedRequest_of_ofRequest {request : String} {s s' : Subscription}
    (h : ofRequest request = .ok s) : ofSharedRequest request ≠ .ok s' := by
  intro h'
  obtain ⟨hs, before, gap, after, htext⟩ := ofRequest_eq_ok_iff.mp h
  obtain ⟨hs', before', gap', between, after', htext'⟩ := ofSharedRequest_eq_ok_iff.mp h'
  obtain ⟨front, hfront⟩ := hs.exists_quote
  -- one text read both ways: without the blanks at its end it would end in a quote and in a word
  have hends : (heading before gap s.board.toList s.kinds.toList ++ front ++ ['"']) ++ after.val =
      (heading before' gap' s'.board.toList s'.kinds.toList ++ (s'.tags.toList ++ between.val) ++
        s'.aliasName.toList) ++ after'.val := by
    have htexts := htext.symm.trans htext'
    rw [hfront] at htexts
    simpa using htexts
  obtain ⟨hlast, -⟩ := append_blanks_inj (last_quote _)
    (fun c hc => (hs'.aliasName.last_append _ c hc).1) after.property after'.property hends
  have hmem : '"' ∈ (heading before' gap' s'.board.toList s'.kinds.toList ++
      (s'.tags.toList ++ between.val) ++ s'.aliasName.toList).getLast? := by
    rw [← hlast, List.getLast?_concat]
    rfl
  exact (hs'.aliasName.last_append _ '"' hmem).2 rfl

/-- A request, personal or shared, is read into sound parts whose canonical
text is read into the same, and every subscription of sound parts is read
from its canonical text between any blanks.  A shared request less its alias
is a personal request with the same board, kinds and tags; no text is both. -/
theorem requests_canonical :
    Canonical ofRequest Personal personalText ∧
    Canonical ofSharedRequest Shared sharedText ∧
    (∀ (request : String) (s : Subscription), ofSharedRequest request = .ok s →
      (∃ (front : List Char) (after : Blanks),
        request.toList = front ++ (s.aliasName.toList ++ after.val)) ∧
      ∀ (front : List Char) (after : Blanks),
        request.toList = front ++ (s.aliasName.toList ++ after.val) →
          ofRequest (String.ofList (front ++ after.val)) =
            .ok { s with aliasName := "", shared := false }) ∧
    ∀ (request : String) (s s' : Subscription),
      ofRequest request = .ok s → ofSharedRequest request ≠ .ok s' := by
  refine ⟨canonical_ofRequest, canonical_ofSharedRequest, ?_,
    fun request s s' h => ofSharedRequest_of_ofRequest h⟩
  intro request s h
  refine ⟨?_, fun front after hrequest => ofRequest_of_ofSharedRequest h hrequest⟩
  -- what stands before the alias is some front; that it can be cut off at any such place is the
  -- lemma's
  obtain ⟨-, before, gap, between, after, htext⟩ := ofSharedRequest_eq_ok_iff.mp h
  refine ⟨heading before gap s.board.toList s.kinds.toList ++ (s.tags.toList ++ between.val), after,
    ?_⟩
  rw [htext]
  simp

/-- A shared request with two keywords, and what is left of it without the
alias. -/
theorem cats_request_read :
    ofSharedRequest "b .webm \"cat\"|\"kitten\" cats" =
      .ok ⟨0, "b", "\"cat\"|\"kitten\"", ".webm", "cats", true⟩ ∧
    ofRequest "b .webm \"cat\"|\"kitten\" " =
      .ok ⟨0, "b", "\"cat\"|\"kitten\"", ".webm", "", false⟩ := by
  let tree : QueryTree :=
    .or (.atom ⟨.none, false, ⟨"cat".toList, by decide⟩⟩ .none)
      (.group (.atom ⟨.none, false, ⟨"kitten".toList, by decide⟩⟩ .none))
  have hs : Shared ⟨0, "b", "\"cat\"|\"kitten\"", ".webm", "cats", true⟩ :=
    { id := rfl
      board := isBoardName_iff.mp (by decide)
      kinds := isKindList_iff.mp (by decide)
      tags := ⟨by simp; decide, by simp; decide⟩
      derived := ⟨tree, by decide⟩
      aliasName := ⟨by decide, by simp; decide⟩
      shared := rfl }
  have hread := requests_canonical.2.1.accepted hs .none .none
  have hshared : ofSharedRequest "b .webm \"cat\"|\"kitten\" cats" = _ := hread
  exact ⟨hshared, (requests_canonical.2.2.1 _ _ hshared).2
    "b .webm \"cat\"|\"kitten\" ".toList .none (by decide)⟩

end BoardRelay.Subscription
