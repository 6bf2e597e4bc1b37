/-
  BoardRelay.Text.Lowercase
  ────────────────────────────────
  Full Unicode lowercasing.  It is not a map from character to character:
  U+0130 becomes two characters, and a capital sigma at the end of a word
  becomes U+03C2 instead of U+03C3.
-/
import BoardRelay.Text.CaseTable

namespace BoardRelay.Text

/-! ## §1. Properties of characters -/

/-- Whether a code point lies in one of the ranges. -/
def inRanges (ranges : List (Nat × Nat)) (code : Nat) : Bool :=
  ranges.any fun (first, last) => first ≤ code && code ≤ last

/-- The property Cased. -/
def isCased (c : Char) : Bool :=
  inRanges casedRanges c.toNat

/-- The property Case_Ignorable. -/
def isCaseIgnorable (c : Char) : Bool :=
  inRanges caseIgnorableRanges c.toNat

/-! ## §2. The mapping -/

/-- The run of the simple mapping that a code point belongs to. -/
def lowercaseRun? (code : Nat) : Option (Nat × Nat × Nat × Int) :=
  lowercaseRuns.find? fun (first, last, stride, _) =>
    first ≤ code && code ≤ last && (code - first) % stride = 0

/-- The lower case of one character, out of context. -/
def lowerChar (c : Char) : List Char :=
  if c.toNat < 128 then [c.toLower]
  else if c = '\u0130' then ['i', '\u0307']
  else match lowercaseRun? c.toNat with
    | some (_, _, _, offset) => [Char.ofNat (c.toNat + offset).toNat]
    | none => [c]

/-- Whether the first character that is not case-ignorable is a cased one. -/
def meetsCased (s : List Char) : Bool :=
  match s.dropWhile isCaseIgnorable with
  | c :: _ => isCased c
  | [] => false

/-- The lower case of a capital sigma: final after a cased character and not
before one, case-ignorable characters left aside.  `before` is what stands
before it, nearest character first. -/
def lowerSigma (before after : List Char) : Char :=
  if meetsCased before && !meetsCased after then '\u03c2' else '\u03c3'

/-- The lower case of a text. -/
def lowercase (s : List Char) : List Char :=
  go [] s
where
  go (before : List Char) : List Char → List Char
    | [] => []
    | c :: after =>
      (if c = '\u03a3' then [lowerSigma before after] else lowerChar c) ++ go (c :: before) after

end BoardRelay.Text
