/-
  BoardRelay.Toml.Text
  ────────────────────────────────
  Texts, keys, blanks and comments in a TOML text.  Readers take what they
  read off the front of a list of characters and answer with the rest.
-/
import BoardRelay.Text.Digits

namespace BoardRelay.Toml

/-! ## §1. Blanks and comments -/

/-- A blank within a line. -/
def isSpace (c : Char) : Bool :=
  c = ' ' || c = '\t'

/-- A character that may stand in a text as itself: no control but the tab. -/
def isPlain (c : Char) : Bool :=
  c = '\t' || (' ' ≤ c && c != '\x7f')

/-- The rest after the blanks in front. -/
def skipSpaces (s : List Char) : List Char :=
  s.dropWhile isSpace

/-- The rest after a line end in front. -/
def cutLineEnd? : List Char → Option (List Char)
  | '\n' :: rest => some rest
  | '\r' :: '\n' :: rest => some rest
  | _ => none

/-- The rest after blanks and a comment. -/
def skipComment (s : List Char) : List Char :=
  match skipSpaces s with
  | '#' :: rest => rest.dropWhile isPlain
  | rest => rest

/-- The rest after blanks, comments and line ends, with a bound on the
lines. -/
def skipLines : Nat → List Char → List Char
  | 0, s => skipSpaces s
  | bound + 1, s =>
    match cutLineEnd? (skipComment s) with
    | some rest => skipLines bound rest
    | none => skipSpaces s

/-! ## §2. Texts -/

/-- The character of a code point given in hexadecimal digits. -/
def codePoint? (digits : List Char) : Option Char := do
  let n ← Text.number? 16 digits
  if n.isValidChar then some (Char.ofNat n) else none

/-- A character given by so many hexadecimal digits. -/
def readCodePoint (count : Nat) (s : List Char) : Option (Char × List Char) := do
  if s.length < count then none
  let c ← codePoint? (s.take count)
  return (c, s.drop count)

/-- An escape, read after its backslash. -/
def readEscape : List Char → Option (Char × List Char)
  | 'b' :: rest => some ('\x08', rest)
  | 't' :: rest => some ('\t', rest)
  | 'n' :: rest => some ('\n', rest)
  | 'f' :: rest => some ('\x0c', rest)
  | 'r' :: rest => some ('\r', rest)
  | '"' :: rest => some ('"', rest)
  | '\\' :: rest => some ('\\', rest)
  | 'u' :: rest => readCodePoint 4 rest
  | 'U' :: rest => readCodePoint 8 rest
  | _ => none

/-- A text in double quotes, read after the first quote, with a bound on its
characters. -/
def readBasic : Nat → List Char → Option (List Char × List Char)
  | 0, _ => none
  | _ + 1, [] => none
  | bound + 1, c :: rest =>
    if c = '"' then some ([], rest)
    else if c = '\\' then do
      let (e, rest) ← readEscape rest
      let (others, rest) ← readBasic bound rest
      return (e :: others, rest)
    else if isPlain c then (readBasic bound rest).map fun (others, rest) => (c :: others, rest)
    else none

/-- A text in single quotes, read after the first quote: no escapes. -/
def readLiteral : List Char → Option (List Char × List Char)
  | [] => none
  | c :: rest =>
    if c = '\x27' then some ([], rest)
    else if isPlain c then (readLiteral rest).map fun (others, rest) => (c :: others, rest)
    else none

/-- Three or more quotes in front end a text of many lines; up to two of
them belong to the text. -/
def cutClosing? (quote : Char) (s : List Char) : Option (List Char × List Char) :=
  let run := s.takeWhile (· = quote)
  if run.length < 3 then none
  else
    let kept := min (run.length - 3) 2
    some (List.replicate kept quote, s.drop (kept + 3))

/-- The rest after a backslash that ends its line: blanks and line ends go. -/
def cutFold? (s : List Char) : Option (List Char) :=
  (cutLineEnd? (skipSpaces s)).map fun rest => dropFold rest.length rest
where
  /-- Drops blanks and line ends, with a bound on them. -/
  dropFold : Nat → List Char → List Char
    | 0, s => s
    | bound + 1, s =>
      match cutLineEnd? (skipSpaces s) with
      | some rest => dropFold bound rest
      | none => skipSpaces s

/-- A text of many lines in double quotes, read after the opening ones. -/
def readBasicLines : Nat → List Char → Option (List Char × List Char)
  | 0, _ => none
  | _ + 1, [] => none
  | bound + 1, c :: rest =>
    match cutClosing? '"' (c :: rest) with
    | some closed => some closed
    | none =>
      if c = '\\' then
        match cutFold? rest with
        | some rest => readBasicLines bound rest
        | none => do
          let (e, rest) ← readEscape rest
          let (others, rest) ← readBasicLines bound rest
          return (e :: others, rest)
      else match cutLineEnd? (c :: rest) with
        | some rest => (readBasicLines bound rest).map fun (others, rest) => ('\n' :: others, rest)
        | none =>
          if isPlain c then
            (readBasicLines bound rest).map fun (others, rest) => (c :: others, rest)
          else none

/-- A text of many lines in single quotes, read after the opening ones. -/
def readLiteralLines : Nat → List Char → Option (List Char × List Char)
  | 0, _ => none
  | _ + 1, [] => none
  | bound + 1, c :: rest =>
    match cutClosing? '\x27' (c :: rest) with
    | some closed => some closed
    | none =>
      match cutLineEnd? (c :: rest) with
      | some rest => (readLiteralLines bound rest).map fun (others, rest) => ('\n' :: others, rest)
      | none =>
        if isPlain c then
          (readLiteralLines bound rest).map fun (others, rest) => (c :: others, rest)
        else none

/-- The rest after the line end that may follow the opening quotes. -/
def skipFirstLineEnd (s : List Char) : List Char :=
  (cutLineEnd? s).getD s

/-- A text of any form. -/
def readText (s : List Char) : Option (List Char × List Char) :=
  match s with
  | '"' :: '"' :: '"' :: rest => readBasicLines (rest.length + 1) (skipFirstLineEnd rest)
  | '"' :: rest => readBasic (rest.length + 1) rest
  | '\x27' :: '\x27' :: '\x27' :: rest => readLiteralLines (rest.length + 1) (skipFirstLineEnd rest)
  | '\x27' :: rest => readLiteral rest
  | _ => none

/-! ## §3. Keys -/

/-- A character of a key without quotes. -/
def isKeyChar (c : Char) : Bool :=
  c.isAlphanum || c = '_' || c = '-'

/-- One part of a key; in quotes it stays on its line. -/
def readKeyPart (s : List Char) : Option (String × List Char) :=
  match s with
  | '"' :: rest =>
    (readBasic (rest.length + 1) rest).map fun (key, rest) => (String.ofList key, rest)
  | '\x27' :: rest => (readLiteral rest).map fun (key, rest) => (String.ofList key, rest)
  | _ =>
    let key := s.takeWhile isKeyChar
    if key.isEmpty then none else some (String.ofList key, s.dropWhile isKeyChar)

/-- The parts of a key with dots between, with a bound on their number. -/
def readKeyParts : Nat → List Char → Option (List String × List Char)
  | 0, _ => none
  | bound + 1, s => do
    let (part, rest) ← readKeyPart (skipSpaces s)
    match skipSpaces rest with
    | '.' :: rest =>
      let (others, rest) ← readKeyParts bound rest
      return (part :: others, rest)
    | rest => return ([part], rest)

/-- How deep keys and values may go. -/
def maxDepth : Nat :=
  79

/-- A key: its parts, not too many, with the blanks around them. -/
def readKey (s : List Char) : Option (List String × List Char) :=
  readKeyParts maxDepth s

end BoardRelay.Toml
