/-
  BoardRelay.Proofs.Endpoint
  ────────────────────────────────
  Templates as the pieces they are made of.  Filling replaces one name after
  another in the text as it then is; when names and values have no braces,
  each replacement fills the places of its name and makes no place of another
  (`fillOne_textOf`).  So filling is one substitution at all places at once
  (`fill_eq_substitute`), and what stands last may be any text, since nothing
  is replaced after it.
-/
import BoardRelay.Endpoint
import BoardRelay.Proofs.Text.Search

namespace BoardRelay

/-! ## §1. Replacing. -/

namespace Text

variable {part replacement text rest : List Char}

theorem replaceAll_cons_of_not {c : Char} (h : part.isPrefixOf (c :: rest) = false) :
    replaceAll part replacement (c :: rest) = c :: replaceAll part replacement rest := by
  rw [replaceAll, h, if_neg Bool.false_ne_true]

/-- Nothing is replaced where the part cannot begin. -/
theorem replaceAll_append_of_not_mem {c : Char} {tail : List Char} (hpart : part = c :: tail)
    (h : c ∉ text) :
    replaceAll part replacement (text ++ rest) = text ++ replaceAll part replacement rest := by
  -- Induction on the text that is passed over, character by character.
  induction text with
  | nil => rfl
  | cons d text ih =>
    rw [List.mem_cons, not_or] at h
    have hnot : part.isPrefixOf (d :: (text ++ rest)) = false := by
      simp [hpart, List.isPrefixOf, h.1]
    rw [List.cons_append, replaceAll_cons_of_not hnot, ih h.2, List.cons_append]

/-- The part itself is replaced. -/
theorem replaceAll_append_self (hpart : part ≠ []) :
    replaceAll part replacement (part ++ rest) =
      replacement ++ replaceAll part replacement rest := by
  obtain ⟨c, tail, rfl⟩ := List.exists_cons_of_ne_nil hpart
  have hprefix : (c :: tail).isPrefixOf (c :: (tail ++ rest)) = true :=
    List.isPrefixOf_iff_prefix.mpr ⟨rest, rfl⟩
  rw [List.cons_append, replaceAll, if_pos hprefix]
  simp

end Text

namespace Endpoint

open BoardRelay.Text

/-! ## §2. Pieces. -/

/-- Whether a text has no braces. -/
def Plain (text : List Char) : Prop :=
  '\x7b' ∉ text ∧ '\x7d' ∉ text

instance (text : List Char) : Decidable (Plain text) :=
  inferInstanceAs (Decidable (_ ∧ _))

/-- A piece of a template. -/
inductive Piece where
  | literal (text : List Char)
  /-- The place of a name. -/
  | place (name : String)

namespace Piece

/-- A piece as it is written. -/
def text : Piece → List Char
  | .literal text => text
  | .place name => placeholder name

/-- Whether there are no braces but those of places. -/
def Plain : Piece → Prop
  | .literal text => Endpoint.Plain text
  | .place name => Endpoint.Plain name.toList

/-- The piece with the place of one name filled. -/
def fillOne (name value : String) : Piece → Piece
  | .literal text => .literal text
  | .place other => if other = name then .literal value.toList else .place other

/-- A piece after the substitution of values for names: the place of an
unknown name stays. -/
def substitute (values : List (String × String)) : Piece → List Char
  | .literal text => text
  | .place name =>
    match values.lookup name with
    | some value => value.toList
    | none => placeholder name

end Piece

/-- The text that pieces make. -/
def textOf (pieces : List Piece) : List Char :=
  pieces.flatMap Piece.text

/-- The template that pieces make. -/
def template (pieces : List Piece) : String :=
  String.ofList (textOf pieces)

/-- The text that pieces make after the substitution of values for names, all
at once. -/
def substitute (values : List (String × String)) (pieces : List Piece) : String :=
  String.ofList (pieces.flatMap (Piece.substitute values))

/-- Whether names are distinct and without braces, and so are values, but for
the last one, which may be any text. -/
structure Admissible (values : List (String × String)) : Prop where
  distinct : (values.map (·.1)).Nodup
  names : ∀ value ∈ values, Plain value.1.toList
  values : ∀ value ∈ values.dropLast, Plain value.2.toList

/-! ## §3. One name. -/

section One

variable {name other value : String} {rest : List Char}

/-- The place of another name stays, since no name has a brace that would end
it early. -/
theorem replaceAll_place_of_ne (hname : Plain name.toList) (hother : Plain other.toList)
    (hne : other ≠ name) (replacement : List Char) :
    replaceAll (placeholder name) replacement (placeholder other ++ rest) =
      placeholder other ++ replaceAll (placeholder name) replacement rest := by
  have hnot : (placeholder name).isPrefixOf (placeholder other ++ rest) = false := by
    rw [← Bool.not_eq_true, List.isPrefixOf_iff_prefix]
    rintro ⟨behind, hbehind⟩
    -- if the one placeholder began the other, both names would end at the same brace
    have hcut : cut? '\x7d' (name.toList ++ '\x7d' :: behind) =
        cut? '\x7d' (other.toList ++ '\x7d' :: rest) := by
      simpa [placeholder] using congrArg (fun text => cut? '\x7d' text.tail) hbehind
    rw [cut?_eq_some_iff.mpr ⟨rfl, hname.2⟩, cut?_eq_some_iff.mpr ⟨rfl, hother.2⟩] at hcut
    simp only [Option.some.injEq, Prod.mk.injEq] at hcut
    exact hne (String.toList_inj.mp hcut.1.symm)
  -- and behind the opening brace no placeholder can begin
  have hbehind : '\x7b' ∉ other.toList ++ ['\x7d'] := by
    simp [hother.1]
  calc replaceAll (placeholder name) replacement (placeholder other ++ rest)
      = '\x7b' :: replaceAll (placeholder name) replacement (other.toList ++ ['\x7d'] ++ rest) :=
        replaceAll_cons_of_not hnot
    _ = '\x7b' :: (other.toList ++ ['\x7d'] ++ replaceAll (placeholder name) replacement rest) :=
        congrArg _ (replaceAll_append_of_not_mem rfl hbehind)

/-- Replacing the place of a name in a piece is filling the piece, and goes on
behind it. -/
theorem replaceAll_piece {piece : Piece} (hname : Plain name.toList) (hpiece : piece.Plain) :
    replaceAll (placeholder name) value.toList (piece.text ++ rest) =
      (piece.fillOne name value).text ++ replaceAll (placeholder name) value.toList rest := by
  -- a literal text has no brace at which the place could begin
  cases piece with
  | literal text => exact replaceAll_append_of_not_mem rfl hpiece.1
  | place other =>
    rw [Piece.fillOne]
    split
    · next heq =>
      subst heq
      exact replaceAll_append_self (List.cons_ne_nil _ _)
    · next hne => exact replaceAll_place_of_ne hname hpiece hne _

/-- Filling one name fills its places, whatever the value. -/
theorem fillOne_textOf {pieces : List Piece} (hname : Plain name.toList)
    (hpieces : ∀ piece ∈ pieces, piece.Plain) :
    fillOne (textOf pieces) name value = textOf (pieces.map (Piece.fillOne name value)) := by
  induction pieces with
  | nil => simp [fillOne, textOf, replaceAll]
  | cons piece pieces ih =>
    rw [List.forall_mem_cons] at hpieces
    have ih := ih hpieces.2
    rw [fillOne, textOf] at ih ⊢
    rw [List.flatMap_cons, replaceAll_piece hname hpieces.1, ih]
    rfl

/-- A value without braces makes no place of another name. -/
theorem Piece.Plain.fillOne {piece : Piece} (h : piece.Plain) (hvalue : Endpoint.Plain value.toList)
    (name : String) : (piece.fillOne name value).Plain := by
  cases piece with
  | literal text => exact h
  | place other =>
    rw [Piece.fillOne]
    split
    · exact hvalue
    · exact h

end One

/-! ## §4. All names. -/

/-- A piece with the places of all names filled, one after the other. -/
def Piece.fillAll (values : List (String × String)) (piece : Piece) : Piece :=
  values.foldl (fun piece (name, value) => piece.fillOne name value) piece

/-- Filling all names fills the pieces, one by one. -/
theorem foldl_fillOne_textOf {values : List (String × String)} {pieces : List Piece}
    (hpieces : ∀ piece ∈ pieces, piece.Plain) (hnames : ∀ value ∈ values, Plain value.1.toList)
    (hvalues : ∀ value ∈ values.dropLast, Plain value.2.toList) :
    values.foldl (fun text (name, value) => fillOne text name value) (textOf pieces) =
      textOf (pieces.map (Piece.fillAll values)) := by
  induction values generalizing pieces with
  | nil => exact congrArg textOf (List.map_id pieces).symm
  | cons value values ih =>
    obtain ⟨name, value⟩ := value
    rw [List.forall_mem_cons] at hnames
    rw [List.foldl_cons]
    show values.foldl _ (fillOne (textOf pieces) name value) = _
    rw [fillOne_textOf hnames.1 hpieces]
    cases values with
    | nil => rfl
    | cons next values =>
      -- other names come after this one, so its value has no braces
      rw [List.dropLast_cons_cons, List.forall_mem_cons] at hvalues
      have hfilled : ∀ piece ∈ pieces.map (Piece.fillOne name value), piece.Plain := by
        intro piece hpiece
        obtain ⟨before, hbefore, rfl⟩ := List.mem_map.mp hpiece
        exact (hpieces before hbefore).fillOne hvalues.1 name
      rw [ih hfilled hnames.2 hvalues.2, List.map_map]
      rfl

theorem fillAll_literal (values : List (String × String)) (text : List Char) :
    (Piece.literal text).fillAll values = .literal text := by
  induction values with
  | nil => rfl
  | cons value values ih => exact ih

/-- A piece that is filled name by name is what the substitution makes of
it. -/
theorem text_fillAll (values : List (String × String)) (piece : Piece) :
    (piece.fillAll values).text = piece.substitute values := by
  cases piece with
  | literal text => rw [fillAll_literal]; rfl
  | place name =>
    -- Induction on the values: once its name has come the piece is a literal text, and before it
    -- stays a place.
    induction values with
    | nil => rfl
    | cons value values ih =>
      obtain ⟨other, value⟩ := value
      show (((Piece.place name).fillOne other value).fillAll values).text = _
      rw [Piece.fillOne, Piece.substitute, List.lookup_cons]
      split
      · next heq =>
        rw [fillAll_literal, heq, beq_self_eq_true]
        rfl
      · next hne =>
        rw [ih, beq_false_of_ne hne]
        rfl

/-- A name that occurs once has the value that stands with it. -/
theorem lookup_eq_some_iff_mem {values : List (String × String)} {name value : String}
    (h : (values.map (·.1)).Nodup) :
    values.lookup name = some value ↔ (name, value) ∈ values := by
  induction values with
  | nil => simp
  | cons entry values ih =>
    obtain ⟨other, first⟩ := entry
    rw [List.map_cons, List.nodup_cons] at h
    rw [List.lookup_cons, List.mem_cons, Prod.mk.injEq]
    by_cases heq : name = other
    · -- the name does not come again
      subst heq
      have hnot : (name, value) ∉ values := fun hmem => h.1 (List.mem_map.mpr ⟨_, hmem, rfl⟩)
      simp [hnot, eq_comm]
    · simp [heq, beq_false_of_ne, ih h.2]

/-- The order of distinct names does not matter to a substitution. -/
theorem substitute_eq_of_perm {values others : List (String × String)} (hperm : others.Perm values)
    (h : (values.map (·.1)).Nodup) (piece : Piece) :
    piece.substitute others = piece.substitute values := by
  cases piece with
  | literal text => rfl
  | place name =>
    have hothers : (others.map (·.1)).Nodup := (hperm.map _).nodup_iff.mpr h
    have hlookup : others.lookup name = values.lookup name := by
      refine Option.ext fun value => ?_
      rw [lookup_eq_some_iff_mem hothers, lookup_eq_some_iff_mem h, hperm.mem_iff]
    rw [Piece.substitute, hlookup, Piece.substitute]

/-- Filling a template is the substitution of all values at once. -/
theorem fill_template {pieces : List Piece} {values : List (String × String)}
    (hpieces : ∀ piece ∈ pieces, piece.Plain) (hnames : ∀ value ∈ values, Plain value.1.toList)
    (hvalues : ∀ value ∈ values.dropLast, Plain value.2.toList) :
    fill (template pieces) values = substitute values pieces := by
  rw [fill, template, String.toList_ofList, foldl_fillOne_textOf hpieces hnames hvalues, textOf,
    List.flatMap_map, substitute]
  simp only [text_fillAll]

/-- Filling a template of plain pieces, name after name, is the substitution
of all values at once: each place of a name that has a value gets that value,
all else stays, and no value is looked at again.  The order of the names does
not matter as long as the values are plain but for the last. -/
theorem fill_eq_substitute {pieces : List Piece} (hpieces : ∀ piece ∈ pieces, piece.Plain)
    {values : List (String × String)} (hvalues : Admissible values) :
    fill (template pieces) values = substitute values pieces ∧
      ∀ others : List (String × String), others.Perm values →
        (∀ value ∈ others.dropLast, Plain value.2.toList) →
        fill (template pieces) others = fill (template pieces) values := by
  have hfill := fill_template hpieces hvalues.names hvalues.values
  refine ⟨hfill, fun others hperm hothers => ?_⟩
  have hnames : ∀ value ∈ others, Plain value.1.toList := fun value hvalue =>
    hvalues.names value (hperm.mem_iff.mp hvalue)
  rw [hfill, fill_template hpieces hnames hothers, substitute, substitute,
    List.flatMap_congr fun piece _ => substitute_eq_of_perm hperm hvalues.distinct piece]

/-- A board and a thread whose name looks like a place: it is filled in as it
is, twice, and a place that has no value stays. -/
theorem thread_like_a_place_filled :
    let pieces : List Piece := [.literal "h/".toList, .place "board", .literal "/".toList,
      .place "thread", .place "x", .place "thread"]
    let values := [("board", "vg"), ("thread", "\x7bboard\x7d")]
    template pieces = "h/\x7bboard\x7d/\x7bthread\x7d\x7bx\x7d\x7bthread\x7d" ∧
      (∀ piece ∈ pieces, piece.Plain) ∧ Admissible values ∧
      fill (template pieces) values = "h/vg/\x7bboard\x7d\x7bx\x7d\x7bboard\x7d" := by
  intro pieces values
  have hpieces : ∀ piece ∈ pieces, piece.Plain := by
    simp [pieces, Piece.Plain, Plain]
  have hvalues : Admissible values := ⟨by decide, by decide, by decide⟩
  refine ⟨by decide, hpieces, hvalues, ?_⟩
  rw [(fill_eq_substitute hpieces hvalues).1]
  decide

end Endpoint

end BoardRelay
