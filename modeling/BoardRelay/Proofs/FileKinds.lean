/-
  BoardRelay.Proofs.FileKinds
  ────────────────────────────────
  What an expression for file kinds asks for.  It is read word by word, so it
  names the kinds that its parts name (`names_dotted`):

      read (a ++ "." ++ b)   names   what  read a  and  read b  name

  and how often, in which order and in which letters it does so makes no
  difference (`Reworded.names_iff`).  A file is wanted just when some word
  names a kind that its name has an ending of (`word_by_word`).
-/
import BoardRelay.FileKinds
import BoardRelay.Proofs.Text.Blank
import BoardRelay.Proofs.Text.Lowercase
import BoardRelay.Proofs.Text.Search

namespace BoardRelay.FileKinds

open BoardRelay.Text

/-! ## §1. Words. -/

/-- Whether an expression names a kind: one of its dot-separated words, without
the blanks around it and in lower case, is the word of the kind. -/
def Names (kind : FileKind) (expression : String) : Prop :=
  ∃ token, IsPiece '.' token expression.toList ∧ asciiLower (trim token) = kind.word

/-- An expression names a kind when the word of the kind is among its words. -/
theorem names_iff_mem_words {kind : FileKind} {expression : String} :
    Names kind expression ↔ kind.word ∈ words expression.toList := by
  simp only [Names, words, List.mem_map, mem_pieces_iff]

/-- **The words of two expressions with a dot between them are those of both.** -/
theorem words_dotted (a b : String) :
    words (a ++ "." ++ b).toList = words a.toList ++ words b.toList := by
  have hlist : (a ++ "." ++ b).toList = a.toList ++ '.' :: b.toList := by
    simp
  rw [words, hlist, pieces_append, List.map_append]
  rfl

/-- So they name together what either names. -/
theorem names_dotted {kind : FileKind} {a b : String} :
    Names kind (a ++ "." ++ b) ↔ Names kind a ∨ Names kind b := by
  rw [names_iff_mem_words, names_iff_mem_words, names_iff_mem_words, words_dotted, List.mem_append]

/-- The case of letters is gone before an expression is cut into words. -/
theorem words_eq_of_asciiLower {s t : List Char} (h : asciiLower s = asciiLower t) :
    words s = words t := by
  have hlower : ∀ s, words s = (pieces '.' (asciiLower s)).map trim := fun s => by
    rw [words, pieces_asciiLower (by decide), List.map_map]
    exact List.map_congr_left fun piece _ => (trim_asciiLower piece).symm
  rw [hlower, hlower, h]

theorem dot_not_mem_of_allBlank {s : List Char} (h : allBlank s = true) : '.' ∉ s := by
  intro hmem
  have hblank := List.all_eq_true.mp h '.' hmem
  revert hblank
  decide

/-- Blanks in front are part of the first word. -/
theorem words_blanks_append {before : List Char} (h : allBlank before = true) (s : List Char) :
    words (before ++ s) = words s := by
  have hdot := dot_not_mem_of_allBlank h
  cases hcut : cut? '.' s with
  | none =>
    have hs := cut?_eq_none_iff.mp hcut
    have hboth : '.' ∉ before ++ s := by
      rw [List.mem_append, not_or]
      exact ⟨hdot, hs⟩
    rw [words, words, pieces_eq_singleton hs, pieces_eq_singleton hboth, List.map_singleton,
      List.map_singleton, trim_blanks_append h]
  | some parts =>
    obtain ⟨hs, hfirst⟩ := cut?_eq_some_iff.mp hcut
    have hboth : '.' ∉ before ++ parts.1 := by
      rw [List.mem_append, not_or]
      exact ⟨hdot, hfirst⟩
    rw [hs, ← List.append_assoc, words, words, pieces_append_cons hboth, pieces_append_cons hfirst,
      List.map_cons, List.map_cons, trim_blanks_append h]

/-- Blanks behind are part of the last word, in whichever piece that is. -/
theorem words_append_blanks {after : List Char} (h : allBlank after = true) (s : List Char) :
    words (s ++ after) = words s := by
  have hdot := dot_not_mem_of_allBlank h
  have hlast : ∀ word, '.' ∉ word → words (word ++ after) = words word := fun word hword => by
    have hboth : '.' ∉ word ++ after := by
      rw [List.mem_append, not_or]
      exact ⟨hword, hdot⟩
    rw [words, words, pieces_eq_singleton hword, pieces_eq_singleton hboth, List.map_singleton,
      List.map_singleton, trim_append_blanks h]
  -- the last word begins behind the last dot, or is all there is
  cases hcut : afterLast? ['.'] s with
  | none => exact hlast s (afterLast?_eq_none_iff.mp hcut)
  | some word =>
    obtain ⟨front, rfl, hword⟩ := afterLast?_eq_some_iff.mp hcut
    have hdone := hlast word hword
    rw [words, words] at hdone
    rw [List.append_assoc, List.cons_append, words, words, pieces_append, pieces_append,
      List.map_append, List.map_append, hdone]

/-! ## §2. What an expression accepts. -/

/-- A set that is read has the kinds that the expression names. -/
theorem has_read_iff {kind : FileKind} {expression : String} :
    (read expression).has kind = true ↔ Names kind expression := by
  rw [names_iff_mem_words]
  cases kind <;> exact List.contains_iff_mem

/-- A file is accepted when its name, in small letters, ends like one of a kind
in the set. -/
theorem accepts_iff {kinds : FileKinds} {name : String} : kinds.accepts name = true ↔
    ∃ kind, kinds.has kind = true ∧
      ∃ ending ∈ kind.endings, ending <:+ asciiLower name.toList := by
  have hall : ∀ kind : FileKind, kind ∈ FileKind.all := fun kind => by cases kind <;> decide
  simp [accepts, FileKind.accepts, hall]

/-- One expression is another in different words: reordered, repeated, in another
case, with blanks around it, or with words that name nothing. -/
inductive Reworded : String → String → Prop
  | reordered (a b : String) : Reworded (a ++ "." ++ b) (b ++ "." ++ a)
  | repeated (a : String) : Reworded (a ++ "." ++ a) a
  | recased {a b : String} (h : asciiLower a.toList = asciiLower b.toList) : Reworded a b
  | padded (before a after : String) (hbefore : allBlank before.toList = true)
    (hafter : allBlank after.toList = true) : Reworded (before ++ a ++ after) a
  | unknown {a : String} (h : ∀ kind, ¬Names kind a) (b : String) : Reworded (a ++ "." ++ b) b
  | beside {a b : String} (h : Reworded a b) (c : String) : Reworded (a ++ "." ++ c) (b ++ "." ++ c)
  | symm {a b : String} (h : Reworded a b) : Reworded b a
  | trans {a b c : String} (h : Reworded a b) (h' : Reworded b c) : Reworded a c

/-- Other words name the same kinds. -/
theorem Reworded.names_iff {s t : String} (h : Reworded s t) (kind : FileKind) :
    Names kind s ↔ Names kind t := by
  -- Induction on how the one expression comes from the other.
  induction h with
  | reordered a b => rw [names_dotted, names_dotted, or_comm]
  | repeated a => rw [names_dotted, or_self]
  | recased hcase =>
    rw [names_iff_mem_words, names_iff_mem_words, words_eq_of_asciiLower hcase]
  | padded before a after hbefore hafter =>
    rw [names_iff_mem_words, names_iff_mem_words, String.toList_append, String.toList_append,
      words_append_blanks hafter, words_blanks_append hbefore]
  | unknown hunknown b => rw [names_dotted, or_iff_right (hunknown kind)]
  | beside _ c ih => rw [names_dotted, names_dotted, ih]
  | symm _ ih => exact ih.symm
  | trans _ _ ih ih' => exact ih.trans ih'

theorem accepts_read_iff {expression name : String} : (read expression).accepts name = true ↔
    ∃ kind, Names kind expression ∧ ∃ ending ∈ kind.endings, ending <:+ asciiLower name.toList := by
  simp only [accepts_iff, has_read_iff]

/-- What is written names the kinds of the set and no others. -/
theorem read_write (kinds : FileKinds) : read kinds.write = kinds := by
  obtain ⟨image, gif, webm⟩ := kinds
  cases image <;> cases gif <;> cases webm <;> decide

/-- An expression accepts the files of the kinds that its words name. -/
theorem word_by_word (name : String) :
    (∀ a b : String, (read (a ++ "." ++ b)).accepts name =
      ((read a).accepts name || (read b).accepts name)) ∧
    (∀ {s t : String}, Reworded s t → (read s).accepts name = (read t).accepts name) ∧
    (∀ s : String, (read s).accepts name = true ↔ ∃ token, IsPiece '.' token s.toList ∧
      ∃ kind : FileKind, asciiLower (trim token) = kind.word ∧
        ∃ ending ∈ kind.endings, ending <:+ asciiLower name.toList) ∧
    ∀ s : String, (read (read s).write).accepts name = (read s).accepts name := by
  refine ⟨fun a b => ?_, fun hreworded => ?_, fun s => ?_, fun s => by rw [read_write]⟩
  · -- a kind named by both parts may be named by either
    rw [Bool.eq_iff_iff, Bool.or_eq_true, accepts_read_iff, accepts_read_iff, accepts_read_iff,
      ← exists_or]
    simp only [names_dotted, or_and_right]
  · rw [Bool.eq_iff_iff, accepts_read_iff, accepts_read_iff]
    simp only [hreworded.names_iff]
  · rw [accepts_read_iff]
    constructor
    · rintro ⟨kind, ⟨token, htoken, hword⟩, hending⟩
      exact ⟨token, htoken, kind, hword, hending⟩
    · rintro ⟨token, htoken, kind, hword, hending⟩
      exact ⟨kind, ⟨token, htoken, hword⟩, hending⟩

/-- An unknown word, and one kind twice in different letters with blanks around
it. -/
theorem muddled_expression : Reworded "mp3. WebM .webm" "webm" ∧
    (read "mp3. WebM .webm").accepts "Clip.WEBM" = (read "webm").accepts "Clip.WEBM" ∧
    (read "webm").accepts "Clip.WEBM" = true := by
  have hunknown : ∀ kind, ¬Names kind "mp3" := by
    intro kind hnames
    rw [names_iff_mem_words] at hnames
    revert hnames
    cases kind <;> decide
  have hword : Reworded " WebM " "webm" :=
    .trans (.padded " " "WebM" " " rfl rfl) (.recased rfl)
  have hreworded : Reworded "mp3. WebM .webm" "webm" :=
    .trans (.unknown hunknown " WebM .webm") (.trans (.beside hword "webm") (.repeated "webm"))
  exact ⟨hreworded, (word_by_word "Clip.WEBM").2.1 hreworded, by decide⟩

end BoardRelay.FileKinds
