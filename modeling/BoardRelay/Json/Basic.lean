/-
  BoardRelay.Json.Basic
  ────────────────────────────────
  JSON values as far as records need them.  Integers are exact and of any
  size.  A number with a fraction or an exponent, or minus zero, fits no
  field of any record, so only its being there is kept.  The same holds of
  a text that encodes no characters: it may be skipped, not read.
-/

namespace BoardRelay

/-- A JSON value without parts. -/
inductive Json.Scalar where
  | null
  | boolean (value : Bool)
  | integer (value : Int)
  /-- A number that is no integer. -/
  | decimal
  | text (value : String)
  /-- A text with stray bytes or with half of a surrogate pair. -/
  | garbled
  deriving Repr, DecidableEq

/-- A JSON value.  The members of an object stay in order, repeated keys
included; a key that encodes no characters is `none`. -/
inductive Json where
  | scalar (value : Json.Scalar)
  | array (items : List Json)
  | object (members : List (Option String × Json))
  deriving Repr

namespace Json

/-- The scalar that a key is written as. -/
def keyScalar : Option String → Scalar
  | some key => .text key
  | none => .garbled

/-- The value `null`. -/
abbrev null : Json := .scalar .null

/-- A text as a value. -/
abbrev text (value : String) : Json := .scalar (.text value)

/-- An integer as a value. -/
abbrev integer (value : Int) : Json := .scalar (.integer value)

/-- A truth value. -/
abbrev boolean (value : Bool) : Json := .scalar (.boolean value)

/-- A record: an object whose keys are names of fields. -/
def record (members : List (String × Json)) : Json :=
  .object (members.map fun (name, value) => (some name, value))

end Json

end BoardRelay
