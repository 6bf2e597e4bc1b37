/-
  BoardRelay.Proofs.Json.Scalar
  ────────────────────────────────
  The text of a scalar is one token, and that token is the scalar: integers
  digit by digit, texts character by character, whatever is escaped.
-/
import BoardRelay.Json.Printer
import BoardRelay.Json.Token
import Mathlib.Data.List.TakeWhile

namespace BoardRelay.Json

/-! ## §1. Integers. -/

/-- One more digit at the end is worth ten times what was there, and itself. -/
theorem digitsValue_append (digits : List Char) (c : Char) :
    digitsValue (digits ++ [c]) = digitsValue digits * 10 + (c.toNat - 48) :=
  List.foldl_append

/-- **The digits of a number have its value.** -/
theorem digitsValue_toDigits (n : Nat) : digitsValue (Nat.toDigits 10 n) = n := by
  induction n using Nat.strongRecOn with
  | ind n ih =>
    -- the last digit, and the number without it
    by_cases hsmall : n < 10
    · rw [Nat.toDigits_of_lt_base hsmall]
      show 0 * 10 + (n.digitChar.toNat - 48) = n
      rw [Nat.toNat_digitChar_sub_48_of_lt_ten hsmall, Nat.zero_mul, Nat.zero_add]
    · have hlarge : 10 ≤ n := Nat.le_of_not_lt hsmall
      rw [Nat.toDigits_of_base_le (by decide) hlarge, digitsValue_append, ih (n / 10) (by omega),
        Nat.toNat_digitChar_sub_48_of_lt_ten (Nat.mod_lt n (by decide))]
      omega

theorem all_isDigit_toDigits (n : Nat) : (Nat.toDigits 10 n).all Char.isDigit = true :=
  List.all_eq_true.mpr fun _ hc => Nat.isDigit_of_mem_toDigits (by decide) (by decide) hc

/-- A positive number has no zero in front. -/
theorem head_toDigits_ne_zero {n : Nat} (hn : 0 < n) :
    ∃ c rest, Nat.toDigits 10 n = c :: rest ∧ c ≠ '0' := by
  induction n using Nat.strongRecOn with
  | ind n ih =>
    by_cases hsmall : n < 10
    · refine ⟨n.digitChar, [], Nat.toDigits_of_lt_base hsmall, fun hzero => ?_⟩
      exact Nat.ne_of_gt hn (Nat.digitChar_eq_zero.mp hzero)
    · have hlarge : 10 ≤ n := Nat.le_of_not_lt hsmall
      obtain ⟨c, rest, hdigits, hc⟩ := ih (n / 10) (by omega) (by omega)
      refine ⟨c, rest ++ [(n % 10).digitChar], ?_, hc⟩
      rw [Nat.toDigits_of_base_le (by decide) hlarge, hdigits, List.cons_append]

/-- The digits of a number have no needless zero in front. -/
theorem isWhole_toDigits (n : Nat) : isWhole (Nat.toDigits 10 n) = true := by
  by_cases hn : n = 0
  · rw [hn]
    rfl
  · obtain ⟨c, rest, hdigits, hc⟩ := head_toDigits_ne_zero (Nat.pos_of_ne_zero hn)
    have hall := all_isDigit_toDigits n
    rw [hdigits, List.all_cons, Bool.and_eq_true] at hall
    rw [hdigits, isWhole]
    · rw [hall.1, hall.2, bne_iff_ne.mpr hc]
      rfl
    · exact fun hzero _ => hc hzero

/-- The digits of a number stand for it; minus zero is a decimal. -/
theorem magnitude?_toDigits (negative : Bool) (n : Nat) :
    magnitude? negative (Nat.toDigits 10 n) =
      if !negative then some (.integer n)
      else if n = 0 then some .decimal
      else some (.integer (-(n : Int))) := by
  have hall := List.all_eq_true.mp (all_isDigit_toDigits n)
  have hwhole : (Nat.toDigits 10 n).takeWhile Char.isDigit = Nat.toDigits 10 n :=
    List.takeWhile_eq_self_iff.mpr hall
  have htail : (Nat.toDigits 10 n).dropWhile Char.isDigit = [] :=
    List.dropWhile_eq_nil_iff.mpr hall
  simp only [magnitude?, hwhole, htail, isWhole_toDigits, digitsValue_toDigits]
  rfl

/-- The word of an integer stands for it. -/
theorem word?_printInteger (value : Int) :
    word? (printInteger value) = some (.integer value) := by
  rw [printInteger]
  split
  · next hneg =>
    rw [word?, if_neg (by simp), if_neg (by simp), if_neg (by simp)]
    rw [magnitude?_toDigits, if_neg (by decide), if_neg (by omega)]
    congr 2
    omega
  · next hpos =>
    cases hdigits : Nat.toDigits 10 value.natAbs with
    | nil => exact absurd hdigits Nat.toDigits_ne_nil
    | cons c rest =>
      have hc : c.isDigit = true := by
        have hall := all_isDigit_toDigits value.natAbs
        rw [hdigits, List.all_cons, Bool.and_eq_true] at hall
        exact hall.1
      have hne : ∀ other : Char, other.isDigit = false → c ≠ other := by
        rintro other hother rfl
        rw [hc] at hother
        cases hother
      -- A digit begins none of the words, and is no minus.
      have hword : word? (c :: rest) = magnitude? false (c :: rest) := by
        rw [word?, if_neg fun h => hne 'n' rfl (List.cons.inj h).1,
          if_neg fun h => hne 't' rfl (List.cons.inj h).1,
          if_neg fun h => hne 'f' rfl (List.cons.inj h).1]
        exact fun digits h => hne '-' rfl (List.cons.inj h).1
      rw [hword, ← hdigits, magnitude?_toDigits, if_pos (by decide)]
      congr 2
      omega

/-! ## §2. Texts. -/

/-- The piece that a character is read as. -/
def pieceOf (c : Char) : Piece :=
  if c < ' ' ∧ c ∉ ['\x08', '\x0c', '\n', '\r', '\t'] then .unit c.toNat else .char c

theorem digitValue?_hexDigit {value : Nat} (hvalue : value < 16) :
    Text.digitValue? (hexDigit value) = some value := by
  have hall : ∀ value : Fin 16, Text.digitValue? (hexDigit value) = some value.val := by decide
  exact hall ⟨value, hvalue⟩

/-- The code of a control character is no half of a pair, so it stands for that
character. -/
theorem joinPieces_unit {value : Nat} (hvalue : value < 32) (rest : List Piece) :
    joinPieces (.unit value :: rest) = (joinPieces rest).map (Char.ofNat value :: ·) := by
  have hhigh : isHighHalf value = false := by simp [isHighHalf]; omega
  have hlow : isLowHalf value = false := by simp [isLowHalf]; omega
  cases rest with
  | nil => simp [joinPieces, hhigh, hlow]
  | cons piece rest =>
    cases piece with
    | unit other => rw [joinPieces, hhigh, hlow]; rfl
    | char c => simp [joinPieces, hhigh, hlow]
    | stray => simp [joinPieces, hhigh, hlow]

theorem toNat_lt_of_lt_space {c : Char} (hc : c < ' ') : c.toNat < 32 := by
  have hlt : c.val < (' ' : Char).val := hc
  exact UInt32.lt_iff_toNat_lt.mp hlt

/-- A character as it is written is read as one piece. -/
theorem readPieces_escapedChar (c : Char) (rest : List (Option Char)) :
    readPieces ((escapedChar c).map some ++ rest) =
      (readPieces rest).map fun (pieces, after) => (pieceOf c :: pieces, after) := by
  -- with a letter of its own, with the digits of its code, or as it is
  by_cases hshort : c ∈ ['"', '\\', '\x08', '\x0c', '\n', '\r', '\t']
  · simp only [List.mem_cons, List.not_mem_nil, or_false] at hshort
    have hread : ∀ e value : Char, e ≠ 'u' → shortEscape? e = some value →
        readPieces (some '\\' :: some e :: rest) =
          (readPieces rest).map fun (pieces, after) => (.char value :: pieces, after) := by
      intro e value hne hescape
      rw [readPieces]
      · rw [hescape]
        cases readPieces rest <;> rfl
      · exact fun a b c d rest _ hletter => hne hletter
    rcases hshort with rfl | rfl | rfl | rfl | rfl | rfl | rfl
    · exact hread '"' '"' (by decide) rfl
    · exact hread '\\' '\\' (by decide) rfl
    · exact hread 'b' '\x08' (by decide) rfl
    · exact hread 'f' '\x0c' (by decide) rfl
    · exact hread 'n' '\n' (by decide) rfl
    · exact hread 'r' '\r' (by decide) rfl
    · exact hread 't' '\t' (by decide) rfl
  · simp only [List.mem_cons, List.not_mem_nil, or_false, not_or] at hshort
    obtain ⟨hquote, hslash, hb, hf, hn, hr, ht⟩ := hshort
    rw [escapedChar, if_neg hquote, if_neg hslash, if_neg hb, if_neg hf, if_neg hn, if_neg hr,
      if_neg ht]
    by_cases hcontrol : c < ' '
    · have hsmall := toNat_lt_of_lt_space hcontrol
      have hpiece : pieceOf c = .unit c.toNat :=
        if_pos ⟨hcontrol, by simp [hb, hf, hn, hr, ht]⟩
      have hunit : unit? (some '0') (some '0') (some (hexDigit (c.toNat / 16)))
          (some (hexDigit (c.toNat % 16))) = some c.toNat := by
        have hzero : Text.digitValue? '0' = some 0 := by decide
        have hhigh := digitValue?_hexDigit (show c.toNat / 16 < 16 by omega)
        have hlow := digitValue?_hexDigit (Nat.mod_lt c.toNat (show 0 < 16 by decide))
        simp only [unit?, Option.bind_eq_bind, Option.bind_some, hzero, hhigh, hlow,
          Option.pure_def, Option.some.injEq]
        omega
      rw [if_pos hcontrol, hpiece]
      show readPieces (some '\\' :: some 'u' :: some '0' :: some '0' ::
        some (hexDigit (c.toNat / 16)) :: some (hexDigit (c.toNat % 16)) :: rest) = _
      rw [readPieces, hunit]
      cases readPieces rest <;> rfl
    · have hpiece : pieceOf c = .char c := if_neg fun h => hcontrol h.1
      rw [if_neg hcontrol, hpiece]
      show readPieces (some c :: rest) = _
      rw [readPieces, if_neg (by simp [hcontrol, hslash])]
      · exact hquote
      · exact fun a b c d rest _ heq => hslash heq
      · exact fun e rest _ heq => hslash heq

/-- A text as it is written is read up to its closing quote, piece by piece. -/
theorem readPieces_text (s : List Char) (rest : List (Option Char)) :
    readPieces ((s.flatMap escapedChar).map some ++ some '"' :: rest) =
      some (s.map pieceOf, rest) := by
  induction s with
  | nil => rw [List.flatMap_nil, List.map_nil, List.nil_append, readPieces]; rfl
  | cons c s ih =>
    rw [List.flatMap_cons, List.map_append, List.append_assoc, readPieces_escapedChar, ih]
    rfl

/-- The pieces that the characters of a text are read as make that text again. -/
theorem joinPieces_map_pieceOf (s : List Char) : joinPieces (s.map pieceOf) = some s := by
  induction s with
  | nil => rfl
  | cons c s ih =>
    rw [List.map_cons]
    -- a control character without a letter of its own is read as its code
    by_cases hunit : c < ' ' ∧ c ∉ ['\x08', '\x0c', '\n', '\r', '\t']
    · have hpiece : pieceOf c = .unit c.toNat := if_pos hunit
      rw [hpiece, joinPieces_unit (toNat_lt_of_lt_space hunit.1), ih, Option.map_some,
        Char.ofNat_toNat]
    · have hpiece : pieceOf c = .char c := if_neg hunit
      rw [hpiece, joinPieces, ih, Option.map_some]

theorem textScalar_map_pieceOf (s : String) :
    textScalar (s.toList.map pieceOf) = .text s := by
  rw [textScalar, joinPieces_map_pieceOf]
  exact congrArg Scalar.text (String.ofList_toList)

/-! ## §3. Tokens. -/

/-- An input that ends a word: it is over, or goes on with something else. -/
def EndsWord (rest : List (Option Char)) : Prop :=
  ∀ c ∈ rest.head?, inWord c = false

theorem endsWord_of_not_inWord {c : Char} (hc : inWord (some c) = false)
    (rest : List (Option Char)) : EndsWord (some c :: rest) := by
  intro other hother
  cases hother
  exact hc

/-- Blanks make no token. -/
theorem tokens_gap {c : Char} (hc : isGap c = true) (rest : List (Option Char)) :
    tokens (some c :: rest) = tokens rest := by
  rw [tokens, if_pos hc]

/-- A mark is a token of its own. -/
theorem tokens_mark {c : Char} {which : Mark} (hc : mark? c = some which)
    (hgap : isGap c = false) (rest : List (Option Char)) :
    tokens (some c :: rest) = (tokens rest).map (.mark which :: ·) := by
  rw [tokens, if_neg (by rw [hgap]; exact Bool.false_ne_true), hc]

theorem tokens_newLine (level : Nat) (rest : List (Option Char)) :
    tokens ((newLine level).map some ++ rest) = tokens rest := by
  have hblanks : ∀ count, tokens ((List.replicate count ' ').map some ++ rest) = tokens rest := by
    intro count
    induction count with
    | zero => rfl
    | succ count ih =>
      rw [List.replicate_succ, List.map_cons, List.cons_append, tokens_gap rfl, ih]
  rw [newLine, List.map_cons, List.cons_append, tokens_gap rfl, hblanks]

/-- What is read between two quotes is one token. -/
theorem tokens_quoted {input rest : List (Option Char)} {pieces : List Piece}
    (hinput : readPieces input = some (pieces, rest)) :
    tokens (some '"' :: input) = (tokens rest).map (.scalar (textScalar pieces) :: ·) := by
  rw [tokens, if_neg (by decide)]
  show (if '"' = '"' then _ else _) = _
  rw [if_pos rfl]
  split
  · next hread => rw [hinput] at hread; cases hread
  · next found after hread =>
    rw [hinput] at hread
    obtain ⟨rfl, rfl⟩ := Prod.mk.inj (Option.some.inj hread)
    rfl

/-- A text as it is written is the token of that text. -/
theorem tokens_printText (s : String) (rest : List (Option Char)) :
    tokens ((printText s).map some ++ rest) = (tokens rest).map (.scalar (.text s) :: ·) := by
  have htext : (printText s).map some ++ rest =
      some '"' :: ((s.toList.flatMap escapedChar).map some ++ some '"' :: rest) := by
    rw [printText]
    simp only [List.cons_append, List.map_cons, List.map_append, List.map_nil, List.append_assoc,
      List.nil_append]
  rw [htext, tokens_quoted (readPieces_text s.toList rest), textScalar_map_pieceOf]

/-- A word is one token, up to where the input ends it. -/
theorem tokens_word {c : Char} {word : List Char} {value : Scalar}
    (hc : inWord (some c) = true) (hword : word.all (fun c => inWord (some c)) = true)
    (hvalue : word? (c :: word) = some value) {rest : List (Option Char)} (hrest : EndsWord rest) :
    tokens ((c :: word).map some ++ rest) = (tokens rest).map (.scalar value :: ·) := by
  simp only [inWord, Bool.and_eq_true, Bool.not_eq_true', Option.isNone_iff_eq_none,
    bne_iff_ne] at hc
  obtain ⟨⟨hgap, hmark⟩, hquote⟩ := hc
  -- The word goes up to where the input ends it, and no further.
  have htake : (word.map some ++ rest).takeWhile inWord = word.map some := by
    rw [List.takeWhile_append_of_pos (by simpa [List.all_eq_true] using hword)]
    cases rest with
    | nil => simp
    | cons other rest =>
      rw [List.takeWhile_cons_of_neg (by rw [hrest other rfl]; exact Bool.false_ne_true),
        List.append_nil]
  have hdrop : (word.map some ++ rest).dropWhile inWord = rest := by
    rw [List.dropWhile_append_of_pos (by simpa [List.all_eq_true] using hword)]
    cases rest with
    | nil => rfl
    | cons other rest =>
      rw [List.dropWhile_cons_of_neg (by rw [hrest other rfl]; exact Bool.false_ne_true)]
  rw [List.map_cons, List.cons_append, tokens, if_neg (by rw [hgap]; exact Bool.false_ne_true),
    hmark]
  show (if c = '"' then _ else _) = _
  have hchars : (word.map some).filterMap id = word := by
    rw [List.filterMap_map]
    exact List.filterMap_some
  rw [if_neg hquote, htake, hchars, hvalue]
  show (tokens ((word.map some ++ rest).dropWhile inWord)).bind _ = _
  rw [hdrop]
  cases tokens rest <;> rfl

theorem inWord_digit {c : Char} (hc : c.isDigit = true) : inWord (some c) = true := by
  -- a digit is none of the marks and gaps, each of which is no digit
  have hne : ∀ other : Char, other.isDigit = false → c ≠ other := by
    rintro other hother rfl
    rw [hc] at hother
    cases hother
  have hmark : mark? c = none := by
    rw [mark?]
    · exact hne '[' rfl
    · exact hne ']' rfl
    · exact hne '\x7b' rfl
    · exact hne '\x7d' rfl
    · exact hne ',' rfl
    · exact hne ':' rfl
  simp [inWord, isGap, hmark, hne ' ' rfl, hne '\n' rfl, hne '\t' rfl, hne '\r' rfl, hne '"' rfl]

theorem inWord_printInteger (value : Int) : ∀ c ∈ printInteger value, inWord (some c) = true := by
  intro c hc
  have hdigits : ∀ c ∈ Nat.toDigits 10 value.natAbs, inWord (some c) = true := fun c hc =>
    inWord_digit (List.all_eq_true.mp (all_isDigit_toDigits _) c hc)
  rw [printInteger] at hc
  split at hc
  · rcases List.mem_cons.mp hc with rfl | hrest
    · decide
    · exact hdigits c hrest
  · exact hdigits c hc

/-- A scalar as it is written, before something that ends a word, is the
token of that scalar. -/
theorem tokens_printScalar (value : Scalar) {rest : List (Option Char)} (hrest : EndsWord rest) :
    tokens ((printScalar value).map some ++ rest) =
      (tokens rest).map (.scalar value :: ·) := by
  cases value with
  | null => exact tokens_word rfl rfl (by decide) hrest
  | boolean value => cases value <;> exact tokens_word rfl rfl (by decide) hrest
  | decimal => exact tokens_word rfl rfl (by decide) hrest
  | text value => exact tokens_printText value rest
  -- an integer is written in one word at least, and no character in it ends a word
  | integer value =>
    have hall := inWord_printInteger value
    have hword := word?_printInteger value
    rw [printScalar]
    cases hdigits : printInteger value with
    | nil => rw [hdigits] at hword; cases hword
    | cons c word =>
      rw [hdigits] at hall hword
      exact tokens_word (hall c List.mem_cons_self) (List.all_eq_true.mpr fun other hother =>
        hall other (List.mem_cons_of_mem c hother)) hword hrest
  | garbled =>
    -- a lone half of a surrogate pair encodes no character
    have hread : readPieces ("\\ud800".toList.map some ++ some '"' :: rest) =
        some ([.unit 0xd800], rest) :=
      rfl
    exact tokens_quoted hread

end BoardRelay.Json
