/-
  BoardRelay.Text.Quoted
  ────────────────────────────────
  Quoted forms of a character and of a text for messages.  The delimiter and
  the backslash are escaped, the usual controls have short escapes, and
  whatever would not show, or would join the character before it, is written
  by its code point in braces.
-/
import BoardRelay.Text.Lowercase
import BoardRelay.Text.PrintTable

namespace BoardRelay.Text

/-- Whether a character is printed as itself. -/
def isPrintable (c : Char) : Bool :=
  !inRanges unprintableRanges c.toNat && !inRanges graphemeExtendRanges c.toNat

/-- The escape by code point: lower-case hexadecimal without leading zeros. -/
def codePointEscape (c : Char) : List Char :=
  ['\\', 'u', '\x7b'] ++ Nat.toDigits 16 c.toNat ++ ['\x7d']

/-- A character as it stands between two `delimiter`s. -/
def escaped (delimiter c : Char) : List Char :=
  if c = '\x00' then ['\\', '0']
  else if c = '\t' then ['\\', 't']
  else if c = '\r' then ['\\', 'r']
  else if c = '\n' then ['\\', 'n']
  else if c = '\\' || c = delimiter then ['\\', c]
  else if isPrintable c then [c]
  else codePointEscape c

/-- A text in double quotes. -/
def quoted (s : String) : String :=
  String.ofList (['"'] ++ s.toList.flatMap (escaped '"') ++ ['"'])

/-- A character in single quotes. -/
def quotedChar (c : Char) : String :=
  String.ofList (['\x27'] ++ escaped '\x27' c ++ ['\x27'])

end BoardRelay.Text
