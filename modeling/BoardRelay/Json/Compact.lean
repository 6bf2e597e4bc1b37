/-
  BoardRelay.Json.Compact
  ────────────────────────────────
  JSON values as text without any blanks.
-/
import BoardRelay.Json.Printer

namespace BoardRelay.Json

mutual

/-- A value without blanks. -/
def compact : Json → List Char
  | .scalar value => printScalar value
  | .array [] => ['[', ']']
  | .array (first :: others) => '[' :: compact first ++ compactItems others ++ [']']
  | .object [] => ['\x7b', '\x7d']
  | .object ((key, first) :: others) =>
    '\x7b' :: printScalar (keyScalar key) ++ ':' :: compact first ++ compactMembers others ++
      ['\x7d']

/-- The items of an array after the first. -/
def compactItems : List Json → List Char
  | [] => []
  | item :: others => ',' :: compact item ++ compactItems others

/-- The members of an object after the first. -/
def compactMembers : List (Option String × Json) → List Char
  | [] => []
  | (key, value) :: others =>
    ',' :: printScalar (keyScalar key) ++ ':' :: compact value ++ compactMembers others

end

end BoardRelay.Json
