/-
  BoardRelay.Url.Punycode
  ────────────────────────────────
  International labels in ASCII.  The ASCII characters of a label come
  first, then a hyphen, then where and which other characters are to be
  inserted: for each of them, in order of code point, the distance from the
  insertion before, as a number in base 36 with variable digit weights.
-/

namespace BoardRelay.Url.Punycode

/-! ## §1. Numbers -/

/-- A digit in base 36: `a` to `z`, then `0` to `9`. -/
def digit (value : Nat) : Char :=
  if value < 26 then Char.ofNat ('a'.toNat + value) else Char.ofNat ('0'.toNat + (value - 26))

/-- The value from which on a digit at a position is not the last one. -/
def threshold (bias position : Nat) : Nat :=
  if position ≤ bias then 1 else if bias + 26 ≤ position then 26 else position - bias

/-- What a digit stands for. -/
def digitValue? (c : Char) : Option Nat :=
  if c.isLower then some (c.toNat - 'a'.toNat)
  else if c.isDigit then some (26 + (c.toNat - '0'.toNat))
  else none

/-- A distance as digits, from a position on. -/
def digits (bias position distance : Nat) : List Char :=
  let t := threshold bias position
  if distance < t then [digit distance]
  else
    digit (t + (distance - t) % (36 - t)) ::
      digits bias (position + 36) ((distance - t) / (36 - t))
termination_by distance
decreasing_by
  have h1 : 1 ≤ threshold bias position := by unfold threshold; grind
  have h2 := Nat.div_le_self (distance - threshold bias position) (36 - threshold bias position)
  omega

/-- A distance from its digits, the first one with a weight, and the text
after them. -/
def readDistance (bias : Nat) : Nat → Nat → List Char → Option (Nat × List Char)
  | _, _, [] => none
  | position, weight, c :: rest => do
    let value ← digitValue? c
    let t := threshold bias position
    if value < t then some (value * weight, rest)
    else
      let (more, rest) ← readDistance bias (position + 36) (weight * (36 - t)) rest
      return (value * weight + more, rest)

/-- The bias for the next distance: the larger the last one, the larger. -/
def adapt (first : Bool) (distance count : Nat) : Nat :=
  let scaled := if first then distance / 700 else distance / 2
  shrink (scaled + scaled / count) 0
where
  /-- Takes off powers of 35, 36 positions each. -/
  shrink (distance position : Nat) : Nat :=
    if 455 < distance then shrink (distance / 35) (position + 36)
    else position + 36 * distance / (distance + 38)
  termination_by distance
  decreasing_by omega

/-! ## §2. Encoding -/

/-- The encoder between two characters. -/
structure Progress where
  output : List Char
  distance : Nat
  bias : Nat
  /-- How many characters are encoded. -/
  count : Nat

/-- Passes one character of the label while those of one code point are
being inserted. -/
def Progress.pass (basicCount codePoint : Nat) (p : Progress) (c : Char) : Progress :=
  if c.toNat < codePoint then { p with distance := p.distance + 1 }
  else if c.toNat = codePoint then
    ⟨p.output ++ digits p.bias 36 p.distance, 0,
      adapt (p.count = basicCount) p.distance (p.count + 1), p.count + 1⟩
  else p

/-- Inserts all characters of one code point after another; `next` is the
least code point that may still come. -/
def insertAll (label : List Char) (basicCount : Nat) :
    List Nat → Nat → Progress → Progress
  | [], _, p => p
  | codePoint :: others, next, p =>
    let start := { p with distance := p.distance + (codePoint - next) * (p.count + 1) }
    let done := label.foldl (Progress.pass basicCount codePoint) start
    insertAll label basicCount others (codePoint + 1) { done with distance := done.distance + 1 }

/-- The code points beyond ASCII, each once, in order. -/
def extendedCodePoints (label : List Char) : List Nat :=
  (((label.map Char.toNat).filter (0x80 ≤ ·)).mergeSort (· ≤ ·)).eraseDups

/-- A label in ASCII. -/
def encode (label : List Char) : List Char :=
  let basic := label.filter fun c => c.toNat < 0x80
  let start : Progress := ⟨[], 0, 72, basic.length⟩
  (if basic.isEmpty then [] else basic ++ ['-']) ++
    (insertAll label basic.length (extendedCodePoints label) 0x80 start).output

/-! ## §3. Decoding -/

/-- Inserts the characters that a text tells into a label.  The last one
inserted was `codePoint`, just before `place`; the bound is on their number. -/
def decodeInto : Nat → Nat → Nat → Nat → List Char → List Char → Option (List Char)
  | _, _, _, _, label, [] => some label
  | 0, _, _, _, _, _ => none
  | bound + 1, codePoint, place, bias, label, text => do
    let (distance, rest) ← readDistance bias 36 1 text
    let size := label.length + 1
    let codePoint := codePoint + (place + distance) / size
    let spot := (place + distance) % size
    if codePoint.isValidChar then
      decodeInto bound codePoint (spot + 1) (adapt (place = 0) distance size)
        (label.take spot ++ Char.ofNat codePoint :: label.drop spot) rest
    else none

/-- The label that is written as a text. -/
def decode? (text : List Char) : Option (List Char) := do
  let inserted := (text.reverse.takeWhile (· ≠ '-')).reverse
  let basic := text.take (text.length - inserted.length - 1)
  let label ← decodeInto inserted.length 0x80 0 72 basic inserted
  if encode label = text then some label else none

end BoardRelay.Url.Punycode
