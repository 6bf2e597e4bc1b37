/-
  BoardRelay.Tags.Basic
  ────────────────────────────────
  Tag queries: which thread texts a subscriber wants.  A query is a
  disjunction of groups, a group a conjunction of keywords that must occur
  in the text or, when negated, must not.  Case is ignored by lowering both
  sides.
-/
import BoardRelay.Text.Lowercase
import BoardRelay.Text.Search

namespace BoardRelay.Tags

open BoardRelay.Text

/-- One keyword of a query. -/
structure Atom where
  /-- The keyword in lower case. -/
  keyword : List Char
  /-- Whether the keyword must be absent. -/
  negated : Bool
  deriving Repr, DecidableEq

/-- A disjunction of conjunctions of keywords. -/
structure Query where
  groups : List (List Atom)
  deriving Repr, DecidableEq

/-- Whether an atom holds of a text given in lower case. -/
def Atom.holds (text : List Char) (a : Atom) : Bool :=
  occurs a.keyword text != a.negated

/-- The query without groups, which no text satisfies. -/
def Query.never : Query :=
  ⟨[]⟩

/-- Whether some group of the query holds of the text. -/
def Query.matches (q : Query) (text : String) : Bool :=
  let lowered := lowercase text.toList
  q.groups.any fun group => group.all (Atom.holds lowered)

end BoardRelay.Tags
