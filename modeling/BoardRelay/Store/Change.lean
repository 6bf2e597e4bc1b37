/-
  BoardRelay.Store.Change
  ────────────────────────────────
  The changes that users ask of a store, as values, and what each of them
  answers and leaves.
-/
import BoardRelay.Store.Saved
import BoardRelay.Subscription.Request

namespace BoardRelay.Store

/-- A change asked of a store. -/
inductive Change where
  | register (chat : Int64)
  | add (chat : Int64) (wanted : Subscription)
  /-- Adds a personal subscription given as a text. -/
  | addRequest (chat : Int64) (request : String)
  | share (wanted : Subscription)
  /-- Adds a shared subscription given as a text. -/
  | shareRequest (request : String)
  | join (chat : Int64) (aliasName : String)
  | unshare (aliasName : String)
  | remove (chat id : Int64)
  deriving Repr, DecidableEq

/-- The answer to a change. -/
inductive Reply where
  | user (user : User)
  | subscription (subscription : Subscription)
  | removed (wasLinked : Bool)
  deriving Repr, DecidableEq

/-- Puts an answer into its form as a reply. -/
def replyWith {α : Type} (form : α → Reply) (outcome : Except Error α × Store) :
    Except Error Reply × Store :=
  (outcome.1.map form, outcome.2)

/-- So, too, where nothing is ever refused. -/
def granted {α : Type} (form : α → Reply) (outcome : α × Store) : Except Error Reply × Store :=
  (.ok (form outcome.1), outcome.2)

/-- What a change answers, and the store after it. -/
def Change.apply : Change → Store → Except Error Reply × Store
  | .register chat, store => granted .user (store.register chat)
  | .add chat wanted, store => granted .subscription (store.add chat wanted)
  | .addRequest chat request, store =>
    match Subscription.ofRequest request with
    | .error e => (.error e, store)
    | .ok wanted => granted .subscription (store.add chat wanted)
  | .share wanted, store => replyWith .subscription (store.share wanted)
  | .shareRequest request, store =>
    match Subscription.ofSharedRequest request with
    | .error e => (.error e, store)
    | .ok wanted => replyWith .subscription (store.share wanted)
  | .join chat aliasName, store => replyWith .subscription (store.join chat aliasName)
  | .unshare aliasName, store => replyWith .subscription (store.unshare aliasName)
  | .remove chat id, store => granted .removed (store.remove chat id)

end BoardRelay.Store
