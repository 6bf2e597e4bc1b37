/-
  BoardRelay.Proofs.Json.RoundTrip
  ────────────────────────────────
  A JSON value that is printed reads back as that value: its text has the
  tokens of the value (`tokens_print`), and from those the reader, with fuel
  for each of them twice, builds the value (`readsBack`).
-/
import BoardRelay.Json.Reader
import BoardRelay.Proofs.Json.Scalar

namespace BoardRelay.Json

/-! ## §1. The tokens of a value. -/

mutual

/-- The tokens of a value. -/
def valueTokens : Json → List Token
  | .scalar value => [.scalar value]
  | .array [] => [.mark .leftBracket, .mark .rightBracket]
  | .array (first :: others) => .mark .leftBracket :: valueTokens first ++ itemTokens others
  | .object [] => [.mark .leftBrace, .mark .rightBrace]
  | .object ((key, first) :: others) =>
    .mark .leftBrace :: .scalar (keyScalar key) :: .mark .colon :: valueTokens first ++
      memberTokens others

/-- The tokens of an array after its first item. -/
def itemTokens : List Json → List Token
  | [] => [.mark .rightBracket]
  | item :: others => .mark .comma :: valueTokens item ++ itemTokens others

/-- The tokens of an object after its first member. -/
def memberTokens : List (Option String × Json) → List Token
  | [] => [.mark .rightBrace]
  | (key, value) :: others =>
    .mark .comma :: .scalar (keyScalar key) :: .mark .colon :: valueTokens value ++
      memberTokens others

end

/-! ## §2. Printed text as tokens. -/

theorem endsWord_newLine (level : Nat) (rest : List (Option Char)) :
    EndsWord ((newLine level).map some ++ rest) :=
  endsWord_of_not_inWord rfl _

theorem endsWord_printItems (level : Nat) (items : List Json) {rest : List (Option Char)}
    (hrest : EndsWord rest) : EndsWord ((printItems level items).map some ++ rest) := by
  cases items with
  | nil => exact hrest
  | cons item items => exact endsWord_of_not_inWord rfl _

theorem endsWord_printMembers (level : Nat) (members : List (Option String × Json))
    {rest : List (Option Char)} (hrest : EndsWord rest) :
    EndsWord ((printMembers level members).map some ++ rest) := by
  cases members with
  | nil => exact hrest
  | cons member members => exact endsWord_of_not_inWord rfl _

mutual

/-- A value as it is written, before something that ends a word, has the
tokens of the value. -/
theorem tokens_printValue (level : Nat) (value : Json) (rest : List (Option Char))
    (hrest : EndsWord rest) : tokens ((printValue level value).map some ++ rest) =
      (tokens rest).map (valueTokens value ++ ·) := by
  match value with
  | .scalar value =>
    rw [printValue, tokens_printScalar value hrest, valueTokens]
    rfl
  | .array [] =>
    show tokens (some '[' :: some ']' :: rest) = _
    rw [tokens_mark rfl rfl, tokens_mark rfl rfl, Option.map_map]
    rfl
  | .array (first :: others) =>
    rw [printValue]
    simp only [List.map_append, List.map_cons, List.map_nil, List.append_assoc, List.cons_append,
      List.nil_append]
    -- What follows an item, a comma or a new line, ends its last word.
    rw [tokens_mark rfl rfl, tokens_newLine, tokens_printValue (level + 1) first _
      (endsWord_printItems _ _ (endsWord_newLine _ _)), tokens_printItems level others rest]
    simp only [Option.map_map, valueTokens]
    congr 1
    funext more
    simp
  | .object [] =>
    show tokens (some '\x7b' :: some '\x7d' :: rest) = _
    rw [tokens_mark rfl rfl, tokens_mark rfl rfl, Option.map_map]
    rfl
  | .object ((key, first) :: others) =>
    rw [printValue]
    simp only [List.map_append, List.map_cons, List.map_nil, List.append_assoc, List.cons_append,
      List.nil_append]
    rw [tokens_mark rfl rfl, tokens_newLine, tokens_printScalar _ (endsWord_of_not_inWord rfl _),
      tokens_mark rfl rfl, tokens_gap rfl, tokens_printValue (level + 1) first _
      (endsWord_printMembers _ _ (endsWord_newLine _ _)), tokens_printMembers level others rest]
    simp only [Option.map_map, valueTokens]
    congr 1
    funext more
    simp

/-- So have the items of an array after the first, with the bracket behind
them. -/
theorem tokens_printItems (level : Nat) (items : List Json) (rest : List (Option Char)) :
    tokens ((printItems (level + 1) items).map some ++
      ((newLine level).map some ++ some ']' :: rest)) =
      (tokens rest).map (itemTokens items ++ ·) := by
  match items with
  -- Recursion on the items, mutual with the printing of one value.
  | [] =>
    show tokens ((newLine level).map some ++ some ']' :: rest) = _
    rw [tokens_newLine, tokens_mark rfl rfl]
    rfl
  | item :: others =>
    rw [printItems]
    simp only [List.map_append, List.map_cons, List.append_assoc, List.cons_append]
    rw [tokens_mark rfl rfl, tokens_newLine, tokens_printValue (level + 1) item _
      (endsWord_printItems _ _ (endsWord_newLine _ _)), tokens_printItems level others rest]
    simp only [Option.map_map, itemTokens]
    congr 1
    funext more
    simp

/-- So have the members of an object, with the brace behind them. -/
theorem tokens_printMembers (level : Nat) (members : List (Option String × Json))
    (rest : List (Option Char)) :
    tokens ((printMembers (level + 1) members).map some ++
      ((newLine level).map some ++ some '\x7d' :: rest)) =
      (tokens rest).map (memberTokens members ++ ·) := by
  match members with
  | [] =>
    show tokens ((newLine level).map some ++ some '\x7d' :: rest) = _
    rw [tokens_newLine, tokens_mark rfl rfl]
    rfl
  | (key, value) :: others =>
    rw [printMembers]
    simp only [List.map_append, List.map_cons, List.append_assoc, List.cons_append,
      List.nil_append]
    rw [tokens_mark rfl rfl, tokens_newLine, tokens_printScalar _ (endsWord_of_not_inWord rfl _),
      tokens_mark rfl rfl, tokens_gap rfl, tokens_printValue (level + 1) value _
      (endsWord_printMembers _ _ (endsWord_newLine _ _)), tokens_printMembers level others rest]
    simp only [Option.map_map, memberTokens]
    congr 1
    funext more
    simp

end

/-- **A printed value has the tokens of the value.** -/
theorem tokens_print (value : Json) :
    tokens ((print value).map some) = some (valueTokens value) := by
  have h := tokens_printValue 0 value [] (fun c hc => by cases hc)
  rw [List.append_nil] at h
  rw [print, h, tokens, Option.map_some, List.append_nil]

/-! ## §3. Tokens as values. -/

/-- No value begins with the bracket that ends an array. -/
theorem valueTokens_ne_rightBracket (value : Json) (rest after : List Token) :
    valueTokens value ++ rest ≠ .mark .rightBracket :: after := by
  match value with
  | .scalar value => simp [valueTokens]
  | .array [] => simp [valueTokens]
  | .array (first :: others) => simp [valueTokens]
  | .object [] => simp [valueTokens]
  | .object ((key, first) :: others) => simp [valueTokens]

theorem length_valueTokens_pos (value : Json) : 0 < (valueTokens value).length := by
  match value with
  | .scalar value => simp [valueTokens]
  | .array [] => simp [valueTokens]
  | .array (first :: others) => simp [valueTokens]
  | .object [] => simp [valueTokens]
  | .object ((key, first) :: others) => simp [valueTokens]

theorem length_itemTokens_pos (items : List Json) : 0 < (itemTokens items).length := by
  cases items <;> simp [itemTokens]

theorem length_memberTokens_pos (members : List (Option String × Json)) :
    0 < (memberTokens members).length := by
  cases members <;> simp [memberTokens]

theorem readMembers_last {fuel : Nat} (key : Option String) {first : Json}
    {input after : List Token}
    (hfirst : readValue fuel input = some (first, .mark .rightBrace :: after)) :
    readMembers (fuel + 1) (.scalar (keyScalar key) :: .mark .colon :: input) =
      some ([(key, first)], after) := by
  cases key <;>
  · simp only [keyScalar, readMembers, hfirst, Option.bind_eq_bind, Option.bind_some]
    rfl

/-- A member is read in front of others that are read. -/
theorem readMembers_more {fuel : Nat} (key : Option String) {first : Json}
    {others : List (Option String × Json)} {input more after : List Token}
    (hfirst : readValue fuel input = some (first, .mark .comma :: more))
    (hmore : readMembers fuel more = some (others, after)) :
    readMembers (fuel + 1) (.scalar (keyScalar key) :: .mark .colon :: input) =
      some ((key, first) :: others, after) := by
  cases key <;>
  · simp only [keyScalar, readMembers, hfirst, hmore, Option.bind_eq_bind, Option.bind_some]
    rfl

/-- Whether the reader, with enough fuel, takes the tokens of a value off the
input and gives that value. -/
def ReadsBack (value : Json) : Prop :=
  ∀ fuel rest, 2 * (valueTokens value).length ≤ fuel →
    readValue fuel (valueTokens value ++ rest) = some (value, rest)

mutual

/-- **The reader builds a value from its tokens**, with fuel for each of them
twice. -/
theorem readsBack (value : Json) : ReadsBack value := by
  intro fuel rest hfuel
  have hpos := length_valueTokens_pos value
  -- One unit is spent on entering a value, one on each item or member.
  obtain ⟨fuel, rfl⟩ : ∃ count, fuel = count + 1 := ⟨fuel - 1, by omega⟩
  match value with
  | .scalar value => rfl
  | .array [] => rfl
  | .array (first :: others) =>
    simp only [valueTokens, List.cons_append, List.length_cons, List.length_append] at hfuel ⊢
    rw [readValue, List.append_assoc,
      readItems_itemTokens others (readsBack first) fuel rest (by omega)]
    · rfl
    · -- the reader takes an array for empty only at its right bracket
      rw [List.append_assoc]
      exact valueTokens_ne_rightBracket first _
  | .object [] => rfl
  | .object ((key, first) :: others) =>
    simp only [valueTokens, List.cons_append, List.length_cons, List.length_append] at hfuel ⊢
    rw [readValue, List.append_assoc,
      readMembers_memberTokens others key (readsBack first) fuel rest (by omega)]
    · rfl
    · exact fun after h => by cases h

/-- The items of an array are built from their tokens. -/
theorem readItems_itemTokens (others : List Json) {first : Json} (hfirst : ReadsBack first)
    (fuel : Nat) (rest : List Token)
    (hfuel : 2 * ((valueTokens first).length + (itemTokens others).length) ≤ fuel) :
    readItems fuel (valueTokens first ++ (itemTokens others ++ rest)) =
      some (first :: others, rest) := by
  have hmore := length_itemTokens_pos others
  -- one unit of fuel is spent here, and the tokens of the first item pay for it
  obtain ⟨fuel, rfl⟩ : ∃ count, fuel = count + 1 := ⟨fuel - 1, by omega⟩
  rw [readItems, hfirst fuel _ (by omega)]
  match others with
  | [] => rfl
  | item :: others =>
    simp only [itemTokens, List.cons_append, List.length_cons, List.length_append,
      List.append_assoc] at hfuel ⊢
    have hothers := readItems_itemTokens others (readsBack item) fuel rest (by omega)
    simp only [Option.bind_eq_bind, Option.bind_some, hothers]
    rfl

/-- So are the members of an object. -/
theorem readMembers_memberTokens (others : List (Option String × Json)) (key : Option String)
    {first : Json} (hfirst : ReadsBack first) (fuel : Nat) (rest : List Token)
    (hfuel : 2 * ((valueTokens first).length + (memberTokens others).length) ≤ fuel) :
    readMembers fuel (.scalar (keyScalar key) :: .mark .colon ::
      (valueTokens first ++ (memberTokens others ++ rest))) =
      some ((key, first) :: others, rest) := by
  have hmore := length_memberTokens_pos others
  -- the fuel is paid for by the tokens of the first value
  obtain ⟨fuel, rfl⟩ : ∃ count, fuel = count + 1 := ⟨fuel - 1, by omega⟩
  have hread := hfirst fuel (memberTokens others ++ rest) (by omega)
  match others with
  | [] => exact readMembers_last key hread
  | (name, value) :: others =>
    simp only [memberTokens, List.cons_append, List.length_cons, List.length_append,
      List.append_assoc] at hfuel hread ⊢
    have hothers := readMembers_memberTokens others name (readsBack value) fuel rest (by omega)
    exact readMembers_more key hread hothers

end

/-- Every value that is printed and put into bytes reads back as that
value. -/
theorem read?_encode_print (value : Json) :
    read? (Text.encode (print value)) = some value := by
  have hread := readsBack value (2 * (valueTokens value).length) [] (Nat.le_refl _)
  rw [List.append_nil] at hread
  rw [read?, Text.decode_encode, tokens_print, Option.bind_some, ofTokens?, hread]

end BoardRelay.Json
