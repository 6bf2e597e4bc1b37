/-
  BoardRelay.Crawl.Site
  ────────────────────────────────
  What a crawl works with: the site that it asks for boards and threads, and
  the registry that tells it who wants what and how far it has come.
-/
import BoardRelay.Board
import BoardRelay.Store.Saved

namespace BoardRelay.Crawl

/-! ## §1. The site -/

/-- What becomes of a question to the site. -/
inductive Outcome (α : Type) where
  | answer (value : α)
  /-- The question fails. -/
  | failure
  /-- Whoever asked dies of it. -/
  | collapse
  deriving Repr, DecidableEq

/-- A site: its answers, and where it keeps attached files. -/
structure Site where
  listing : String → Outcome Listing
  /-- The posts of a thread on a board. -/
  posts : String → String → Outcome Posts
  /-- The locator of a file's path. -/
  resource : String → String

/-! ## §2. The registry -/

/-- A view of subscriptions and cursor, over whatever keeps them. -/
structure Registry (σ : Type) where
  cursor : σ → Except Error UInt64
  subscriptions : σ → Except Error (List Subscription)
  /-- The users that a subscription is for. -/
  subscribers : Int64 → σ → Except Error (List User)
  /-- Moves the cursor forward; says whether it moved. -/
  advance : UInt64 → σ → Except Error Bool × σ

/-- The registry of a store in memory: it never fails. -/
def Registry.memory : Registry Store where
  cursor store := .ok store.cursor
  subscriptions store := .ok store.subscriptions
  subscribers subscription store := .ok (store.subscribersOf subscription)
  advance timestamp store :=
    let (moved, store) := store.advance timestamp
    (.ok moved, store)

/-- The registry of a store in a file: moving the cursor may fail. -/
def Registry.saved : Registry (Store.Saved × Disk) where
  cursor state := .ok state.1.store.cursor
  subscriptions state := .ok state.1.store.subscriptions
  subscribers subscription state := .ok (state.1.store.subscribersOf subscription)
  advance timestamp state := state.1.advance timestamp state.2

end BoardRelay.Crawl
