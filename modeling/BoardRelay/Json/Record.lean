/-
  BoardRelay.Json.Record
  ────────────────────────────────
  Records as JSON values.  A record is an object of named fields, where
  unknown names are skipped and a known name may not come twice, or an array
  of the fields in order, where fields at the end may be missing.  What a
  missing field means is up to the field: an error, or its default.  `null`
  is a value like any other and does not make a field missing.
-/
import BoardRelay.Json.Basic
import BoardRelay.Word64

namespace BoardRelay.Json

/-- A way to read a value of some type. -/
abbrev Decoder (α : Type) := Json → Option α

/-- What becomes of the items of an array that no field takes. -/
inductive Surplus where
  | refused
  | ignored
  deriving Repr, DecidableEq

/-- The fields that a record gives. -/
abbrev Fields := List (String × Json)

/-- The members of known name, unless one of them comes twice or some key
cannot be read. -/
def knownMembers (names : List String) : List (Option String × Json) → Option Fields
  | [] => some []
  | (none, _) :: _ => none
  | (some name, value) :: others => do
    let fields ← knownMembers names others
    if !names.contains name then some fields
    else if (fields.lookup name).isSome then none
    else some ((name, value) :: fields)

/-- The fields of a record with these field names in order. -/
def fields (surplus : Surplus) (names : List String) : Json → Option Fields
  | .object members => knownMembers names members
  | .array items =>
    if surplus = .refused ∧ names.length < items.length then none else some (names.zip items)
  | .scalar _ => none

/-- The value of a field that must be given. -/
def required {α : Type} (decoder : Decoder α) (given : Fields) (name : String) : Option α :=
  (given.lookup name).bind decoder

/-- The value of a field that has a default. -/
def optional {α : Type} (default : α) (decoder : Decoder α) (given : Fields) (name : String) :
    Option α :=
  match given.lookup name with
  | none => some default
  | some value => decoder value

/-! ## Decoders of plain values -/

/-- A text. -/
def asText : Decoder String
  | .scalar (.text value) => some value
  | _ => none

/-- A truth value. -/
def asBoolean : Decoder Bool
  | .scalar (.boolean value) => some value
  | _ => none

/-- An unsigned 64-bit word. -/
def asWord : Decoder UInt64
  | .scalar (.integer value) => Word64.unsigned? value
  | _ => none

/-- A signed 64-bit word. -/
def asSignedWord : Decoder Int64
  | .scalar (.integer value) => Word64.signed? value
  | _ => none

/-- A list whose items are all of one kind. -/
def asList {α : Type} (decoder : Decoder α) : Decoder (List α)
  | .array items => items.mapM decoder
  | _ => none

/-- A value that may be `null`. -/
def asNullable {α : Type} (decoder : Decoder α) : Decoder (Option α)
  | .scalar .null => some none
  | value => (decoder value).map some

end BoardRelay.Json
