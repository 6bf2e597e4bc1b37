/-
  BoardRelay.Json.Reader
  ────────────────────────────────
  JSON texts as values.  A text is one value with nothing but blanks around
  it.  Each step of the reader takes a token off the input or stops, so fuel
  of twice the number of tokens is never used up.
-/
import BoardRelay.Json.Token

namespace BoardRelay.Json

mutual

/-- The value at the front of the tokens, and the tokens after it. -/
def readValue : Nat → List Token → Option (Json × List Token)
  | 0, _ => none
  | _ + 1, .scalar value :: rest => some (.scalar value, rest)
  | _ + 1, .mark .leftBracket :: .mark .rightBracket :: rest => some (.array [], rest)
  | fuel + 1, .mark .leftBracket :: rest => do
    let (items, after) ← readItems fuel rest
    return (.array items, after)
  | _ + 1, .mark .leftBrace :: .mark .rightBrace :: rest => some (.object [], rest)
  | fuel + 1, .mark .leftBrace :: rest => do
    let (members, after) ← readMembers fuel rest
    return (.object members, after)
  | _ + 1, _ => none

/-- The items of an array up to its closing bracket, at least one. -/
def readItems : Nat → List Token → Option (List Json × List Token)
  | 0, _ => none
  | fuel + 1, input => do
    let (first, rest) ← readValue fuel input
    match rest with
    | .mark .rightBracket :: after => return ([first], after)
    | .mark .comma :: more =>
      let (others, after) ← readItems fuel more
      return (first :: others, after)
    | _ => none

/-- The members of an object up to its closing brace, at least one. -/
def readMembers : Nat → List Token → Option (List (Option String × Json) × List Token)
  | 0, _ => none
  | fuel + 1, .scalar key :: .mark .colon :: input => do
    let name ← match key with
      | .text name => some (some name)
      | .garbled => some none
      | _ => none
    let (first, rest) ← readValue fuel input
    match rest with
    | .mark .rightBrace :: after => return ([(name, first)], after)
    | .mark .comma :: more =>
      let (others, after) ← readMembers fuel more
      return ((name, first) :: others, after)
    | _ => none
  | _ + 1, _ => none

end

/-- The value that a token list is, as a whole. -/
def ofTokens? (input : List Token) : Option Json :=
  match readValue (2 * input.length) input with
  | some (value, []) => some value
  | _ => none

/-- The value of a JSON text given in bytes. -/
def read? (content : Text.Bytes) : Option Json :=
  (tokens (Text.decode content)).bind ofTokens?

/-- The value of a JSON text. -/
def ofText? (s : String) : Option Json :=
  (tokens (s.toList.map some)).bind ofTokens?

end BoardRelay.Json
