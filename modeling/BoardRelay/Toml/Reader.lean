/-
  BoardRelay.Toml.Reader
  ────────────────────────────────
  TOML texts as JSON values.  A text is a run of lines; a line is a header,
  a key with its value, or blank.  The pairs after a header go into the
  table that it names.
-/
import BoardRelay.Toml.Number
import BoardRelay.Toml.Text
import BoardRelay.Toml.Tree

namespace BoardRelay.Toml

/-! ## §1. Values -/

/-- A character that may belong to a number or a word. -/
def isLexemeChar (c : Char) : Bool :=
  !([' ', '\t', '\n', '\r', '#', ',', ']', '}'].contains c)

/-- A value without parts and without quotes.  Of a date and a time of day
with one space between, both are taken. -/
def readWord (s : List Char) : Option (Json × List Char) :=
  let lexeme := s.takeWhile isLexemeChar
  let rest := s.dropWhile isLexemeChar
  if lexeme = ['t', 'r', 'u', 'e'] then some (.boolean true, rest)
  else if lexeme = ['f', 'a', 'l', 's', 'e'] then some (.boolean false, rest)
  else
    let time := (rest.drop 1).takeWhile isLexemeChar
    if isDate lexeme && rest.head? = some ' ' && isTimeAndOffset time then
      some (moment (lexeme ++ ' ' :: time), (rest.drop 1).dropWhile isLexemeChar)
    else (readNumber lexeme).map fun value => (value, rest)

mutual

/-- A value, so many levels below the top, with a bound on the steps. -/
def readValue : Nat → Nat → List Char → Option (Json × List Char)
  | 0, _, _ => none
  | bound + 1, depth, s =>
    match s with
    | '[' :: rest =>
      if depth = maxDepth then none
      else (readItems bound (depth + 1) rest).map fun (items, rest) => (.array items, rest)
    | '{' :: rest =>
      if depth = maxDepth then none
      else match skipSpaces rest with
        | '}' :: rest => some (.object [], rest)
        | rest =>
          (readPairs bound (depth + 1) [] rest).map fun (table, rest) =>
            (.object (membersOf table), rest)
    | '"' :: _ => (readText s).map fun (text, rest) => (.text (String.ofList text), rest)
    | '\x27' :: _ => (readText s).map fun (text, rest) => (.text (String.ofList text), rest)
    | _ => readWord s

/-- The items of an array up to its closing bracket.  Lines may end anywhere
between, and a comma may follow the last item. -/
def readItems : Nat → Nat → List Char → Option (List Json × List Char)
  | 0, _, _ => none
  | bound + 1, depth, s =>
    match skipLines s.length s with
    | ']' :: rest => some ([], rest)
    | s => do
      let (item, rest) ← readValue bound depth s
      match skipLines rest.length rest with
      | ',' :: rest =>
        let (others, rest) ← readItems bound depth rest
        return (item :: others, rest)
      | ']' :: rest => return ([item], rest)
      | _ => none

/-- The pairs of a table within one line, at least one, up to its closing
brace. -/
def readPairs : Nat → Nat → Table → List Char → Option (Table × List Char)
  | 0, _, _, _ => none
  | bound + 1, depth, table, s => do
    let (key, rest) ← readKey s
    match rest with
    | '=' :: rest =>
      let (value, rest) ← readValue bound depth (skipSpaces rest)
      let table ← addPair key.dropLast (key.getLast?.getD "") value table
      match skipSpaces rest with
      | ',' :: rest => readPairs bound depth table rest
      | '}' :: rest => return (table, rest)
      | _ => none
    | _ => none

end

/-! ## §2. Lines -/

/-- What has been read: the table that pairs go into, by the keys of its
header, and the table of the whole text. -/
structure Progress where
  header : List String
  table : Table

/-- A header after its opening bracket. -/
def readHeader (done : Progress) (s : List Char) : Option (Progress × List Char) := do
  let (key, rest) ← readKey s
  match rest with
  | ']' :: rest =>
    let table ← addTable key.dropLast (key.getLast?.getD "") done.table
    return (⟨key, table⟩, rest)
  | _ => none

/-- A header in double brackets, after the opening ones. -/
def readItemHeader (done : Progress) (s : List Char) : Option (Progress × List Char) := do
  let (key, rest) ← readKey s
  match rest with
  | ']' :: ']' :: rest =>
    let table ← addItem key.dropLast (key.getLast?.getD "") done.table
    return (⟨key, table⟩, rest)
  | _ => none

/-- A key with its value, for the table of the last header. -/
def readPair (done : Progress) (s : List Char) : Option (Progress × List Char) := do
  let (key, rest) ← readKey s
  match rest with
  | '=' :: rest =>
    let (value, rest) ← readValue (2 * rest.length + 2) 0 (skipSpaces rest)
    let add (_ : Origin) (table : Table) : Option Table :=
      addPair key.dropLast (key.getLast?.getD "") value table
    let table ← descend .implied add done.header .defined done.table
    return (⟨done.header, table⟩, rest)
  | _ => none

/-- What a line holds before its comment. -/
def readExpression (done : Progress) (s : List Char) : Option (Progress × List Char) :=
  match s with
  | [] => some (done, [])
  | '[' :: '[' :: rest => readItemHeader done rest
  | '[' :: rest => readHeader done rest
  | c :: _ => if c = '#' ∨ (cutLineEnd? s).isSome then some (done, s) else readPair done s

/-- The lines of a text, with a bound on their number. -/
def readLines : Nat → Progress → List Char → Option Table
  | 0, _, _ => none
  | bound + 1, done, s => do
    let (done, rest) ← readExpression done (skipSpaces s)
    match skipComment rest with
    | [] => return done.table
    | rest => readLines bound done (← cutLineEnd? rest)

/-- The rest after a byte order mark in front. -/
def skipMark : List Char → List Char
  | '\uFEFF' :: rest => rest
  | s => s

/-- The value of a TOML text: an object. -/
def read (s : List Char) : Option Json :=
  let s := skipMark s
  (readLines (s.length + 1) ⟨[], []⟩ s).map fun table => .object (membersOf table)

end BoardRelay.Toml
