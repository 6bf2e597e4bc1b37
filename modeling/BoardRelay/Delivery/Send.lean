/-
  BoardRelay.Delivery.Send
  ────────────────────────────────
  A file that someone is to get.
-/
import BoardRelay.Subscription

namespace BoardRelay

/-- A file on its way to those who want it. -/
structure Send where
  receivers : List User
  locator : String
  /-- The thread that the file is from. -/
  caption : String
  deriving Repr, DecidableEq

end BoardRelay
