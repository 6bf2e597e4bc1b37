/-
  BoardRelay.Json.Token
  ────────────────────────────────
  JSON texts as tokens: punctuation marks and scalars, blanks dropped.  The
  input is a decoded run of bytes; strays are allowed between quotes only.

  A text between quotes is read in pieces (characters, 16-bit units given by
  `\u` escapes, strays), and the pieces are joined afterwards: two units
  that form a surrogate pair are one character.
-/
import BoardRelay.Json.Basic
import BoardRelay.Text.Digits
import BoardRelay.Text.Utf8

namespace BoardRelay.Json

/-- A punctuation mark. -/
inductive Mark where
  | leftBracket
  | rightBracket
  | leftBrace
  | rightBrace
  | comma
  | colon
  deriving Repr, DecidableEq

/-- A part of a JSON text. -/
inductive Token where
  | mark (which : Mark)
  | scalar (value : Scalar)
  deriving Repr, DecidableEq

/-! ## §1. Texts -/

/-- A part of a text between quotes. -/
inductive Piece where
  | char (value : Char)
  /-- A 16-bit unit given by its number. -/
  | unit (value : Nat)
  | stray
  deriving Repr, DecidableEq

/-- The number that four hexadecimal digits give. -/
def unit? (a b c d : Option Char) : Option Nat := do
  let a ← Text.digitValue? (← a)
  let b ← Text.digitValue? (← b)
  let c ← Text.digitValue? (← c)
  let d ← Text.digitValue? (← d)
  return ((a * 16 + b) * 16 + c) * 16 + d

/-- The character for the letter after a backslash. -/
def shortEscape? (c : Char) : Option Char :=
  match c with
  | '"' => some '"'
  | '\\' => some '\\'
  | '/' => some '/'
  | 'b' => some '\x08'
  | 'f' => some '\x0c'
  | 'n' => some '\n'
  | 'r' => some '\r'
  | 't' => some '\t'
  | _ => none

/-- The pieces up to the closing quote, and what follows it.  Control
characters must be escaped. -/
def readPieces : List (Option Char) → Option (List Piece × List (Option Char))
  | [] => none
  | none :: rest => (readPieces rest).map fun (pieces, after) => (.stray :: pieces, after)
  | some '"' :: rest => some ([], rest)
  | some '\\' :: some 'u' :: a :: b :: c :: d :: rest => do
    let value ← unit? a b c d
    let (pieces, after) ← readPieces rest
    return (.unit value :: pieces, after)
  | some '\\' :: some e :: rest => do
    let value ← shortEscape? e
    let (pieces, after) ← readPieces rest
    return (.char value :: pieces, after)
  | some c :: rest =>
    if c < ' ' ∨ c = '\\' then none
    else (readPieces rest).map fun (pieces, after) => (.char c :: pieces, after)

theorem readPieces_length_lt {s after : List (Option Char)} {pieces : List Piece}
    (h : readPieces s = some (pieces, after)) : after.length < s.length := by
  fun_induction readPieces s generalizing pieces with
  | case1 => simp at h
  | case3 rest =>
    simp only [Option.some.injEq, Prod.mk.injEq] at h
    simp [h.2]
  | case6 => simp at h
  | case2 rest ih | case7 c rest _ _ _ _ ih =>
    simp only [Option.map_eq_some_iff, Prod.mk.injEq] at h
    obtain ⟨⟨p, a⟩, hread, _, rfl⟩ := h
    exact Nat.lt_succ_of_lt (ih hread)
  | case4 a b c d rest ih | case5 e rest _ ih =>
    simp only [Option.pure_def, Option.bind_eq_bind, Option.bind_eq_some_iff, Option.some.injEq,
      Prod.mk.injEq] at h
    obtain ⟨_, _, ⟨p, a⟩, hread, _, rfl⟩ := h
    have : a.length < rest.length := ih hread
    simp only [List.length_cons]
    omega

/-- Whether a unit is the first half of a surrogate pair. -/
def isHighHalf (unit : Nat) : Bool :=
  0xd800 ≤ unit && unit < 0xdc00

/-- Whether a unit is the second half of a surrogate pair. -/
def isLowHalf (unit : Nat) : Bool :=
  0xdc00 ≤ unit && unit < 0xe000

/-- The characters of the pieces, if there are no strays and no halves. -/
def joinPieces : List Piece → Option (List Char)
  | [] => some []
  | .char c :: rest => (joinPieces rest).map (c :: ·)
  | .stray :: _ => none
  | .unit high :: .unit low :: rest =>
    if isHighHalf high then
      if isLowHalf low then
        (joinPieces rest).map
          (Char.ofNat (0x10000 + (high - 0xd800) * 0x400 + (low - 0xdc00)) :: ·)
      else none
    else if isLowHalf high then none
    else (joinPieces (.unit low :: rest)).map (Char.ofNat high :: ·)
  | .unit value :: rest =>
    if isHighHalf value || isLowHalf value then none
    else (joinPieces rest).map (Char.ofNat value :: ·)

/-- The scalar that a text between quotes stands for. -/
def textScalar (pieces : List Piece) : Scalar :=
  match joinPieces pieces with
  | some s => .text (String.ofList s)
  | none => .garbled

/-! ## §2. Words: numbers, truth values, null -/

/-- The value of a run of decimal digits. -/
def digitsValue (digits : List Char) : Nat :=
  digits.foldl (fun value c => value * 10 + (c.toNat - '0'.toNat)) 0

/-- Digits that may stand before the point: no needless zero in front. -/
def isWhole : List Char → Bool
  | [] => false
  | ['0'] => true
  | c :: rest => c.isDigit && c != '0' && rest.all Char.isDigit

/-- A non-empty run of digits. -/
def isDigits (s : List Char) : Bool :=
  !s.isEmpty && s.all Char.isDigit

/-- What may follow the letter of an exponent. -/
def isExponent : List Char → Bool
  | '+' :: digits => isDigits digits
  | '-' :: digits => isDigits digits
  | digits => isDigits digits

/-- An optional exponent up to the end. -/
def isExponentPart : List Char → Bool
  | [] => true
  | c :: rest => (c = 'e' || c = 'E') && isExponent rest

/-- A fraction, an exponent or both, up to the end. -/
def isFractionPart : List Char → Bool
  | '.' :: rest =>
    isDigits (rest.takeWhile Char.isDigit) && isExponentPart (rest.dropWhile Char.isDigit)
  | rest => isExponentPart rest

/-- A number without its sign. -/
def magnitude? (negative : Bool) (word : List Char) : Option Scalar :=
  let whole := word.takeWhile Char.isDigit
  let tail := word.dropWhile Char.isDigit
  if !isWhole whole then none
  else if tail.isEmpty then
    if !negative then some (.integer (digitsValue whole))
    else if digitsValue whole = 0 then some .decimal
    else some (.integer (-(digitsValue whole : Int)))
  else if isFractionPart tail then some .decimal
  else none

/-- The scalar that a word stands for. -/
def word? (word : List Char) : Option Scalar :=
  if word = ['n', 'u', 'l', 'l'] then some .null
  else if word = ['t', 'r', 'u', 'e'] then some (.boolean true)
  else if word = ['f', 'a', 'l', 's', 'e'] then some (.boolean false)
  else match word with
    | '-' :: digits => magnitude? true digits
    | digits => magnitude? false digits

/-! ## §3. The whole text -/

/-- The blanks that may stand between tokens. -/
def isGap (c : Char) : Bool :=
  c = ' ' || c = '\n' || c = '\t' || c = '\r'

/-- The mark that a character is. -/
def mark? (c : Char) : Option Mark :=
  match c with
  | '[' => some .leftBracket
  | ']' => some .rightBracket
  | '\x7b' => some .leftBrace
  | '\x7d' => some .rightBrace
  | ',' => some .comma
  | ':' => some .colon
  | _ => none

/-- Whether a word goes on with this character. -/
def inWord (c : Option Char) : Bool :=
  match c with
  | none => false
  | some c => !isGap c && (mark? c).isNone && c != '"'

/-- The tokens of a text. -/
def tokens (s : List (Option Char)) : Option (List Token) :=
  match s with
  | [] => some []
  | none :: _ => none
  | some c :: rest =>
    if isGap c then tokens rest
    else match mark? c with
      | some which => (tokens rest).map (.mark which :: ·)
      | none =>
        if c = '"' then
          match h : readPieces rest with
          | none => none
          | some (pieces, after) =>
            have := readPieces_length_lt h
            (tokens after).map (.scalar (textScalar pieces) :: ·)
        else do
          let value ← word? (c :: (rest.takeWhile inWord).filterMap id)
          have := (List.dropWhile_sublist (l := rest) inWord).length_le
          let others ← tokens (rest.dropWhile inWord)
          return .scalar value :: others
termination_by s.length
decreasing_by all_goals (simp only [List.length_cons]; omega)

end BoardRelay.Json
