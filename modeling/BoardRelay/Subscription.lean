/-
  BoardRelay.Subscription
  ────────────────────────────────
  Users and what they subscribe to.  Identifiers and chat numbers are signed
  64-bit words, as the store file and the chat network have them.
-/

namespace BoardRelay

/-- Someone who receives files in a chat. -/
structure User where
  id : Int64
  chat : Int64
  deriving Repr, DecidableEq

/-- A standing order for files from the threads of one board. -/
structure Subscription where
  id : Int64
  board : String
  /-- The tag expression that selects threads. -/
  tags : String
  /-- The kind expression that selects files. -/
  kinds : String
  /-- The word by which a shared subscription is joined. -/
  aliasName : String
  /-- Whether any user may join by the alias. -/
  shared : Bool
  deriving Repr, DecidableEq

/-- A user's place among the receivers of a subscription. -/
structure Link where
  user : Int64
  subscription : Int64
  deriving Repr, DecidableEq

end BoardRelay
