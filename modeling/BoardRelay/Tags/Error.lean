/-
  BoardRelay.Tags.Error
  ────────────────────────────────
  Why a tag expression cannot be read, and the words for it.  Positions are
  byte offsets into the UTF-8 form of the expression.
-/
import BoardRelay.Text.Quoted

namespace BoardRelay.Tags

/-- The first problem of a tag expression. -/
inductive ReadError where
  /-- There is nothing but blanks. -/
  | empty
  /-- A keyword should start here. -/
  | expectedQuote (found : Char) (pos : Nat)
  /-- The quote at this position has no partner. -/
  | unterminatedKeyword (pos : Nat)
  /-- The keyword whose quote stands here has no text. -/
  | emptyKeyword (pos : Nat)
  /-- The expression ends here, after an operator. -/
  | danglingOperator (pos : Nat)
  /-- An operator or the end should follow a keyword. -/
  | unexpectedChar (found : Char) (pos : Nat)
  deriving Repr, DecidableEq

/-- The wording of a problem. -/
def ReadError.message : ReadError → String
  | .empty => "expression is empty"
  | .expectedQuote found pos =>
    "expected '\"' at " ++ toString pos ++ ", found " ++ Text.quotedChar found
  | .unterminatedKeyword pos => "keyword starting at " ++ toString pos ++ " is not closed"
  | .emptyKeyword pos => "keyword at " ++ toString pos ++ " is empty"
  | .danglingOperator pos => "operator at " ++ toString pos ++ " has no right-hand keyword"
  | .unexpectedChar found pos =>
    "unexpected " ++ Text.quotedChar found ++ " at " ++ toString pos ++ ", expected '&' or '|'"

end BoardRelay.Tags
