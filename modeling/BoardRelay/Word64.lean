/-
  BoardRelay.Word64
  ────────────────────────────────
  Integers that fit a word of 64 bits, with or without a sign.
-/

namespace BoardRelay.Word64

/-- The number of words: two to the power of 64. -/
def count : Nat :=
  18446744073709551616

/-- The least magnitude that no signed word has: two to the power of 63. -/
def half : Nat :=
  9223372036854775808

/-- The unsigned word of an integer, if it fits one. -/
def unsigned? (value : Int) : Option UInt64 :=
  if 0 ≤ value ∧ value < count then some (UInt64.ofNat value.toNat) else none

/-- The signed word of an integer, if it fits one. -/
def signed? (value : Int) : Option Int64 :=
  if -half ≤ value ∧ value < half then some (Int64.ofInt value) else none

end BoardRelay.Word64
