/-
  BoardRelay.Text.Search
  ────────────────────────────────
  Finding, cutting and replacing parts of a text, over its list of
  characters.
-/

namespace BoardRelay.Text

/-- Whether `part` occurs in the text as consecutive characters. -/
def occurs (part : List Char) : List Char → Bool
  | [] => part.isEmpty
  | c :: rest => part.isPrefixOf (c :: rest) || occurs part rest

/-- The text cut at every `separator`; the pieces are one more than the
separators. -/
def pieces (separator : Char) : List Char → List (List Char)
  | [] => [[]]
  | c :: rest =>
    if c = separator then [] :: pieces separator rest
    else match pieces separator rest with
      | [] => [[c]]
      | first :: others => (c :: first) :: others

/-- The text before the first `separator` and the text after it. -/
def cut? (separator : Char) : List Char → Option (List Char × List Char)
  | [] => none
  | c :: rest =>
    if c = separator then some ([], rest)
    else (cut? separator rest).map fun (before, after) => (c :: before, after)

/-- What follows the last occurrence of `part`, if there is one. -/
def afterLast? (part : List Char) : List Char → Option (List Char)
  | [] => if part.isEmpty then some [] else none
  | c :: rest =>
    (afterLast? part rest).orElse fun _ =>
      if part.isPrefixOf (c :: rest) then some ((c :: rest).drop part.length) else none

/-- The text with each occurrence of `part` replaced, from the left and
without overlap.  `part` is not empty. -/
def replaceAll (part replacement : List Char) : List Char → List Char
  | [] => []
  | c :: rest =>
    if part.isPrefixOf (c :: rest) then
      replacement ++ replaceAll part replacement (rest.drop (part.length - 1))
    else c :: replaceAll part replacement rest
termination_by s => s.length
decreasing_by all_goals (simp; try omega)

/-- Letters A to Z in lower case, all else unchanged. -/
def asciiLower (s : List Char) : List Char :=
  s.map Char.toLower

end BoardRelay.Text
