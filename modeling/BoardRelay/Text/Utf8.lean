/-
  BoardRelay.Text.Utf8
  ────────────────────────────────
  Bytes and the characters they encode.  Decoding never fails: a byte that
  is no part of a well-formed character is kept as a stray, so that a reader
  can decide where strays matter.  Encoding is undone by decoding
  (`decode_encode`).
-/

namespace BoardRelay.Text

/-- The content of a file or of an answer. -/
abbrev Bytes := List UInt8

/-- A text in UTF-8. -/
def encode (s : List Char) : Bytes :=
  s.flatMap String.utf8EncodeChar

/-- The character at the front of the bytes. -/
def leadingChar? (bytes : Bytes) : Option Char :=
  (bytes.take 4).toByteArray.utf8DecodeChar? 0

/-- The characters of a run of bytes; `none` stands for a stray byte. -/
def decode : Bytes → List (Option Char)
  | [] => []
  | b :: rest =>
    match leadingChar? (b :: rest) with
    | some c => some c :: decode (rest.drop (c.utf8Size - 1))
    | none => none :: decode rest
termination_by bytes => bytes.length
decreasing_by all_goals (simp; try omega)

/-- The text that the bytes encode, if there are no strays. -/
def decode? (bytes : Bytes) : Option (List Char) :=
  (decode bytes).mapM id

theorem leadingChar?_encode (c : Char) (rest : Bytes) :
    leadingChar? (String.utf8EncodeChar c ++ rest) = some c := by
  have hlen : (String.utf8EncodeChar c).length ≤ 4 := by
    rw [String.length_utf8EncodeChar]
    exact c.utf8Size_le_four
  have htake : (String.utf8EncodeChar c ++ rest).take 4 =
      String.utf8EncodeChar c ++ rest.take (4 - (String.utf8EncodeChar c).length) := by
    rw [List.take_append, List.take_of_length_le hlen]
  rw [leadingChar?, htake, List.toByteArray_append]
  exact ByteArray.utf8DecodeChar?_utf8EncodeChar_append

theorem decode_encodeChar_append (c : Char) (rest : Bytes) :
    decode (String.utf8EncodeChar c ++ rest) = some c :: decode rest := by
  have hlead := leadingChar?_encode c rest
  have hlen := String.length_utf8EncodeChar c
  cases h : String.utf8EncodeChar c with
  | nil => exact absurd h String.utf8EncodeChar_ne_nil
  | cons b tail =>
    rw [h] at hlead hlen
    rw [List.cons_append] at hlead ⊢
    rw [decode, hlead]
    have htail : c.utf8Size - 1 = tail.length := by
      simp only [List.length_cons] at hlen
      omega
    simp [htail]

/-- Decoding gives back every character of an encoded text. -/
theorem decode_encode (s : List Char) : decode (encode s) = s.map some := by
  induction s with
  | nil => simp [encode, decode]
  | cons c rest ih =>
    have : encode (c :: rest) = String.utf8EncodeChar c ++ encode rest := rfl
    rw [this, decode_encodeChar_append, ih, List.map_cons]

end BoardRelay.Text
