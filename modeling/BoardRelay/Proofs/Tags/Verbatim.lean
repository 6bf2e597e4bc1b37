/-
  BoardRelay.Proofs.Tags.Verbatim
  ────────────────────────────────
  When a keyword is found wherever it stands.  Keyword and text are lowered
  apart, and a capital sigma is lowered by its neighbours, so a text may have
  a keyword letter by letter and not be selected by it:

      "ΟΔΟΣ"  asks for  οδος        ΟΔΟΣΑ  is lowered to  οδοσα

  The keywords to which this can happen are those with an exposed sigma, and
  no others.
-/
import BoardRelay.Proofs.Tags.Matching

namespace BoardRelay.Tags

open BoardRelay.Text

/-- The expression of a single keyword, plain or negated. -/
def single (negated : Bool) (keyword : Keyword) : String :=
  String.ofList (sign negated ++ '"' :: (keyword.val ++ ['"']))

/-- One keyword in quotes is read as one atom. -/
theorem read_single (negated : Bool) (keyword : Keyword) :
    Query.read (single negated keyword) = .ok ⟨[[⟨lowercase keyword.val, negated⟩]]⟩ := by
  have htext : (QueryTree.single negated keyword).text = (single negated keyword).toList := by
    rw [QueryTree.text_single, single, String.toList_ofList]
  exact read_text htext

/-- Such a query matches the texts in which the keyword occurs, or does not
when it is negated. -/
theorem matches_single {keyword : List Char} {negated : Bool} {text : String} :
    (Query.mk [[⟨keyword, negated⟩]]).matches text =
      (occurs keyword (lowercase text.toList) != negated) := by
  simp [Query.matches, Atom.holds]

/-- A keyword selects every text that has it in it, and its negation none of
them, if and only if none of its capital sigmas is exposed. -/
theorem contained_keyword_selects_iff (keyword : Keyword) :
    (∀ before after : String, ∃ plain negated,
      Query.read (single false keyword) = .ok plain ∧
      Query.read (single true keyword) = .ok negated ∧
      plain.matches (before ++ String.ofList keyword.val ++ after) = true ∧
      negated.matches (before ++ String.ofList keyword.val ++ after) = false) ↔
    ¬Exposed keyword.val := by
  have htext : ∀ before after : String,
      (before ++ String.ofList keyword.val ++ after).toList =
        before.toList ++ (keyword.val ++ after.toList) := by
    intro before after
    simp
  -- the query asks for the lowered keyword in the lowered text, and that is what not to be exposed
  -- means
  rw [← lowercase_infix_iff]
  constructor
  · intro h before after
    obtain ⟨plain, -, hplain, -, hselects, -⟩ := h (String.ofList before) (String.ofList after)
    rw [read_single] at hplain
    obtain rfl := Except.ok.inj hplain
    rw [matches_single, htext, Bool.bne_false, occurs_iff] at hselects
    simpa using hselects
  · intro h before after
    have hoccurs := occurs_iff.mpr (h before.toList after.toList)
    refine ⟨_, _, read_single false keyword, read_single true keyword, ?_, ?_⟩
    · rw [matches_single, htext, hoccurs]
      rfl
    · rw [matches_single, htext, hoccurs]
      rfl

/-- A keyword that ends in a sigma is missed where the word goes on. -/
theorem contained_keyword_missed :
    Query.read "\"ΟΔΟΣ\"" = .ok ⟨[[⟨['ο', 'δ', 'ο', 'ς'], false⟩]]⟩ ∧
    (Query.mk [[⟨['ο', 'δ', 'ο', 'ς'], false⟩]]).matches ("" ++ "ΟΔΟΣ" ++ "Α") = false := by
  have hlower : lowercase ['Ο', 'Δ', 'Ο', 'Σ'] = ['ο', 'δ', 'ο', 'ς'] := by decide +kernel
  constructor
  · rw [← hlower]
    exact read_single false ⟨['Ο', 'Δ', 'Ο', 'Σ'], by decide⟩
  · rw [matches_single]
    decide +kernel

end BoardRelay.Tags
