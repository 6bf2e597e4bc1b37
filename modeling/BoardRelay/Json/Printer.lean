/-
  BoardRelay.Json.Printer
  ────────────────────────────────
  JSON values as indented text: two blanks for each level, one member or
  item a line, a blank after a colon, `[]` and `{}` for what is empty, no
  line end after the last line.  Every value has a text that reads back as
  that value.
-/
import BoardRelay.Json.Basic

namespace BoardRelay.Json

/-- The digit for a number below sixteen. -/
def hexDigit (value : Nat) : Char :=
  Nat.digitChar value

/-- A character as it stands between quotes: quotes, backslashes and
controls are escaped, all else stands for itself. -/
def escapedChar (c : Char) : List Char :=
  if c = '"' then ['\\', '"']
  else if c = '\\' then ['\\', '\\']
  else if c = '\x08' then ['\\', 'b']
  else if c = '\x0c' then ['\\', 'f']
  else if c = '\n' then ['\\', 'n']
  else if c = '\r' then ['\\', 'r']
  else if c = '\t' then ['\\', 't']
  else if c < ' ' then ['\\', 'u', '0', '0', hexDigit (c.toNat / 16), hexDigit (c.toNat % 16)]
  else [c]

/-- A text between quotes. -/
def printText (s : String) : List Char :=
  '"' :: s.toList.flatMap escapedChar ++ ['"']

/-- An integer in decimal digits. -/
def printInteger (value : Int) : List Char :=
  if value < 0 then '-' :: Nat.toDigits 10 value.natAbs else Nat.toDigits 10 value.natAbs

/-- A scalar.  What cannot be kept exactly is written as a representative
of its kind. -/
def printScalar : Scalar → List Char
  | .null => ['n', 'u', 'l', 'l']
  | .boolean true => ['t', 'r', 'u', 'e']
  | .boolean false => ['f', 'a', 'l', 's', 'e']
  | .integer value => printInteger value
  | .decimal => ['0', '.', '0']
  | .text value => printText value
  | .garbled => ['"', '\\', 'u', 'd', '8', '0', '0', '"']

/-- The start of a line at a level of nesting. -/
def newLine (level : Nat) : List Char :=
  '\n' :: List.replicate (2 * level) ' '

mutual

/-- A value at a level of nesting. -/
def printValue (level : Nat) : Json → List Char
  | .scalar value => printScalar value
  | .array [] => ['[', ']']
  | .array (first :: others) =>
    '[' :: newLine (level + 1) ++ printValue (level + 1) first ++
      printItems (level + 1) others ++ newLine level ++ [']']
  | .object [] => ['\x7b', '\x7d']
  | .object ((key, first) :: others) =>
    '\x7b' :: newLine (level + 1) ++ printScalar (keyScalar key) ++ [':', ' '] ++
      printValue (level + 1) first ++ printMembers (level + 1) others ++ newLine level ++ ['\x7d']

/-- The items of an array after the first. -/
def printItems (level : Nat) : List Json → List Char
  | [] => []
  | item :: others =>
    ',' :: newLine level ++ printValue level item ++ printItems level others

/-- The members of an object after the first. -/
def printMembers (level : Nat) : List (Option String × Json) → List Char
  | [] => []
  | (key, value) :: others =>
    ',' :: newLine level ++ printScalar (keyScalar key) ++ [':', ' '] ++ printValue level value ++
      printMembers level others

end

/-- The indented text of a value. -/
def print (value : Json) : List Char :=
  printValue 0 value

end BoardRelay.Json
