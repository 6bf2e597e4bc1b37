/-
  BoardRelay.Url.Escape
  ────────────────────────────────
  Percent escapes.  Each part of a URL has its set of ASCII characters that
  must be escaped; what is not ASCII is escaped everywhere, byte by byte.
-/
import BoardRelay.Text.Digits
import BoardRelay.Text.Utf8

namespace BoardRelay.Url

/-! ## §1. The sets -/

/-- Control characters, escaped in every part. -/
def isControl (c : Char) : Bool :=
  c < ' ' || c = '\x7f'

/-- What is escaped in a fragment. -/
def inFragmentSet (c : Char) : Bool :=
  isControl c || [' ', '"', '<', '>', '\x60'].contains c

/-- What is escaped in a path. -/
def inPathSet (c : Char) : Bool :=
  inFragmentSet c || ['#', '?', '\x7b', '\x7d'].contains c

/-- What is escaped in a user name and in a password. -/
def inUserSet (c : Char) : Bool :=
  inPathSet c || ['/', ':', ';', '=', '@', '[', '\\', ']', '^', '|'].contains c

/-- What is escaped in a query. -/
def inQuerySet (c : Char) : Bool :=
  isControl c || [' ', '"', '#', '<', '>'].contains c

/-- What is escaped in a query of a scheme with domain names. -/
def inSpecialQuerySet (c : Char) : Bool :=
  inQuerySet c || c = '\x27'

/-! ## §2. Escaping -/

/-- A hexadecimal digit in upper case. -/
def upperHexDigit (value : Nat) : Char :=
  (Nat.digitChar value).toUpper

/-- A byte as an escape. -/
def escapeByte (b : UInt8) : List Char :=
  ['%', upperHexDigit (b.toNat / 16), upperHexDigit (b.toNat % 16)]

/-- A text with the characters of a set escaped. -/
def escape (set : Char → Bool) (s : List Char) : List Char :=
  s.flatMap fun c =>
    if c.toNat < 0x80 && !set c then [c] else (Text.encode [c]).flatMap escapeByte

/-- The bytes of a text with its escapes undone. -/
def unescape : List Char → Text.Bytes
  | '%' :: a :: b :: rest =>
    match Text.digitValue? a, Text.digitValue? b with
    | some high, some low => UInt8.ofNat (high * 16 + low) :: unescape rest
    | _, _ => Text.encode ['%'] ++ unescape (a :: b :: rest)
  | c :: rest => Text.encode [c] ++ unescape rest
  | [] => []

end BoardRelay.Url
