/-
  BoardRelay.Toml.Number
  ────────────────────────────────
  Numbers and points in time in a TOML text, told from their whole lexeme.
  Integers are signed 64-bit words and may be grouped by underscores between
  digits.  Fractional numbers fit no setting, so of them only soundness is
  kept, and of points in time only that they are no number.
-/
import BoardRelay.Json.Basic
import BoardRelay.Text.Digits
import BoardRelay.Text.Search
import BoardRelay.Word64

namespace BoardRelay.Toml

open BoardRelay.Text

/-! ## §1. Integers -/

/-- Digits, perhaps in groups with one underscore between. -/
def isGrouped (isDigit : Char → Bool) (s : List Char) : Bool :=
  (pieces '_' s).all fun group => !group.isEmpty && group.all isDigit

/-- The digits without the underscores. -/
def ungroup (s : List Char) : List Char :=
  s.filter (· != '_')

/-- A whole number without a needless zero in front. -/
def isWhole (s : List Char) : Bool :=
  isGrouped Char.isDigit s && (s.length = 1 || s.head? != some '0')

/-- A sign and what follows it. -/
def cutSign (s : List Char) : Bool × List Char :=
  match s with
  | '+' :: rest => (false, rest)
  | '-' :: rest => (true, rest)
  | _ => (false, s)

/-- An integer, if it fits a signed 64-bit word. -/
def fitting (n : Int) : Option Json :=
  (Word64.signed? n).map fun _ => .integer n

/-- An integer in a base named by a letter. -/
def readBased (base : Nat) (digits : List Char) : Option Json :=
  if isGrouped (fun c => (number? base [c]).isSome) digits then
    (number? base (ungroup digits)).bind fun n => fitting n
  else none

/-- An integer. -/
def readInteger (lexeme : List Char) : Option Json :=
  match lexeme with
  | '0' :: 'x' :: digits => readBased 16 digits
  | '0' :: 'o' :: digits => readBased 8 digits
  | '0' :: 'b' :: digits => readBased 2 digits
  | _ =>
    let (negative, digits) := cutSign lexeme
    if isWhole digits then
      (number? 10 (ungroup digits)).bind fun n => fitting (if negative then -n else n)
    else none

/-! ## §2. Fractional numbers -/

/-- The least magnitude that is beyond every double. -/
def doubleLimit : Nat :=
  Nat.pow 2 1024 - Nat.pow 2 970

/-- Whether digits with a power of ten after them are beyond every double. -/
def overflows (digits : List Char) (exponent : Int) : Bool :=
  let value := (number? 10 digits).getD 0
  let size : Int := (Nat.toDigits 10 value).length + exponent
  if value = 0 ∨ size < 308 then false
  else if 310 < size then true
  else if 0 ≤ exponent then doubleLimit ≤ value * Nat.pow 10 exponent.toNat
  else doubleLimit * Nat.pow 10 (-exponent).toNat ≤ value

/-- The exponent after its letter. -/
def readExponent (s : List Char) : Option Int :=
  let (negative, digits) := cutSign s
  if isGrouped Char.isDigit digits then
    (number? 10 (ungroup digits)).map fun n => if negative then -(n : Int) else n
  else none

/-- A fractional number, which must not be too large. -/
def readDecimal (lexeme : List Char) : Option Json :=
  let (negative, magnitude) := cutSign lexeme
  if magnitude = ['i', 'n', 'f'] ∨ magnitude = ['n', 'a', 'n'] then some (.scalar .decimal)
  else do
    let isMark (c : Char) : Bool := c = '.' || c = 'e' || c = 'E'
    let whole := magnitude.takeWhile (!isMark ·)
    let tail := magnitude.dropWhile (!isMark ·)
    if !isWhole whole then none
    let (fraction, tail) ← match tail with
      | '.' :: rest =>
        let fraction := rest.takeWhile (!isMark ·)
        if isGrouped Char.isDigit fraction then some (ungroup fraction, rest.dropWhile (!isMark ·))
        else none
      | 'e' :: _ => some ([], tail)
      | 'E' :: _ => some ([], tail)
      | _ => none
    let exponent ← match tail with
      | [] => some 0
      | 'e' :: rest => readExponent rest
      | 'E' :: rest => readExponent rest
      | _ => none
    if !negative && overflows (ungroup whole ++ fraction) (exponent - fraction.length) then none
    else some (.scalar .decimal)

/-! ## §3. Points in time -/

/-- A number of exactly so many digits. -/
def readFixed (count : Nat) (s : List Char) : Option (Nat × List Char) := do
  let digits := s.take count
  if digits.length ≠ count ∨ !digits.all Char.isDigit then none
  else
    let n ← number? 10 digits
    return (n, s.drop count)

/-- Takes a character off the front. -/
def expectChar (c : Char) (s : List Char) : Option (List Char) :=
  match s with
  | d :: rest => if d = c then some rest else none
  | [] => none

/-- How many days a month has. -/
def daysIn (year month : Nat) : Nat :=
  if month = 2 then (if year % 4 = 0 ∧ (year % 100 ≠ 0 ∨ year % 400 = 0) then 29 else 28)
  else if [4, 6, 9, 11].contains month then 30
  else 31

/-- What follows a date in front. -/
def afterDate (s : List Char) : Option (List Char) := do
  let (year, s) ← readFixed 4 s
  let s ← expectChar '-' s
  let (month, s) ← readFixed 2 s
  let s ← expectChar '-' s
  let (day, s) ← readFixed 2 s
  if 1 ≤ month ∧ month ≤ 12 ∧ 1 ≤ day ∧ day ≤ daysIn year month then some s else none

/-- What follows a time of day in front. -/
def afterTime (s : List Char) : Option (List Char) := do
  let (hour, s) ← readFixed 2 s
  let s ← expectChar ':' s
  let (minute, s) ← readFixed 2 s
  let s ← expectChar ':' s
  let (second, s) ← readFixed 2 s
  if 23 < hour ∨ 59 < minute ∨ 60 < second then none
  else match s with
    | '.' :: rest =>
      if (rest.takeWhile Char.isDigit).isEmpty then some s else some (rest.dropWhile Char.isDigit)
    | _ => some s

/-- An optional distance from universal time up to the end. -/
def isOffset (s : List Char) : Bool :=
  match s with
  | [] => true
  | ['Z'] => true
  | ['z'] => true
  | c :: rest =>
    if c = '+' ∨ c = '-' then
      (do
        let (hour, rest) ← readFixed 2 rest
        let rest ← expectChar ':' rest
        let (minute, rest) ← readFixed 2 rest
        some (rest.isEmpty && hour ≤ 23 && minute ≤ 59)).getD false
    else false

/-- Whether a lexeme is a date and nothing more. -/
def isDate (lexeme : List Char) : Bool :=
  afterDate lexeme = some []

/-- Whether a lexeme is a time of day, perhaps with an offset. -/
def isTimeAndOffset (lexeme : List Char) : Bool :=
  (afterTime lexeme).any isOffset

/-- Whether a lexeme is a point in time. -/
def isMoment (lexeme : List Char) : Bool :=
  afterTime lexeme = some [] ||
    match afterDate lexeme with
    | some [] => true
    | some (c :: rest) => (c = 'T' || c = 't') && isTimeAndOffset rest
    | none => false

/-- A point in time as a value: an object without any field of a setting. -/
def moment (lexeme : List Char) : Json :=
  .object [(some "", .text (String.ofList lexeme))]

/-- The value of a lexeme that starts like a number. -/
def readNumber (lexeme : List Char) : Option Json :=
  if isMoment lexeme then some (moment lexeme)
  else (readDecimal lexeme).orElse fun _ => readInteger lexeme

end BoardRelay.Toml
