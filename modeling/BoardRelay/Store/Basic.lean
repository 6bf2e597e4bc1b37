/-
  BoardRelay.Store.Basic
  ────────────────────────────────
  The store: who subscribes to what, and how far posts have been handled.
  A user is known by the chat; a personal subscription belongs to one user,
  a shared one to whoever joins it by its alias.  Identifiers go up from the
  largest one in use.
-/
import BoardRelay.Error
import BoardRelay.Subscription

namespace BoardRelay

/-- Users, subscriptions, the links between them, and the cursor: the time
of the newest post that has been handled. -/
structure Store where
  users : List User
  subscriptions : List Subscription
  links : List Link
  cursor : UInt64
  deriving Repr, DecidableEq

namespace Store

/-- The store that holds nothing. -/
def empty : Store :=
  ⟨[], [], [], 0⟩

/-- One more than the largest identifier in use, or 1. -/
def nextId (ids : List Int64) : Int64 :=
  ids.max?.getD 0 + 1

/-! ## §1. Looking -/

/-- The user of a chat. -/
def userOf? (chat : Int64) (store : Store) : Option User :=
  store.users.find? fun user => user.chat = chat

/-- The shared subscription of an alias. -/
def sharedAs? (aliasName : String) (store : Store) : Option Subscription :=
  store.subscriptions.find? fun s => s.shared && s.aliasName = aliasName

/-- The shared subscriptions, joined or not. -/
def shared (store : Store) : List Subscription :=
  store.subscriptions.filter (·.shared)

/-- Whether a user is linked to a subscription. -/
def linked (user subscription : Int64) (store : Store) : Bool :=
  store.links.any fun link => link.user = user && link.subscription = subscription

/-- The subscriptions of a chat. -/
def subscriptionsOf (chat : Int64) (store : Store) : List Subscription :=
  match store.userOf? chat with
  | none => []
  | some user => store.subscriptions.filter fun s => store.linked user.id s.id

/-- The users that a subscription is for. -/
def subscribersOf (subscription : Int64) (store : Store) : List User :=
  store.users.filter fun user => store.linked user.id subscription

/-! ## §2. Changing -/

/-- The user of a chat, made if there is none. -/
def register (chat : Int64) (store : Store) : User × Store :=
  match store.userOf? chat with
  | some user => (user, store)
  | none =>
    let user : User := ⟨nextId (store.users.map (·.id)), chat⟩
    (user, { store with users := store.users ++ [user] })

/-- Adds a personal subscription for a chat. -/
def add (chat : Int64) (wanted : Subscription) (store : Store) : Subscription × Store :=
  let (user, store) := store.register chat
  let added := { wanted with id := nextId (store.subscriptions.map (·.id)), shared := false }
  (added, { store with
    links := store.links ++ [⟨user.id, added.id⟩]
    subscriptions := store.subscriptions ++ [added] })

/-- Adds a shared subscription.  Its alias must be free. -/
def share (wanted : Subscription) (store : Store) : Except Error Subscription × Store :=
  match store.sharedAs? wanted.aliasName with
  | some _ => (.error (.invalid (.aliasTaken wanted.aliasName)), store)
  | none =>
    let added := { wanted with id := nextId (store.subscriptions.map (·.id)), shared := true }
    (.ok added, { store with subscriptions := store.subscriptions ++ [added] })

/-- Adds a link, unless it is there already. -/
def linkOnce (link : Link) (store : Store) : Store :=
  if store.links.contains link then store else { store with links := store.links ++ [link] }

/-- Links a chat to the shared subscription of an alias, once.  Without such a
subscription the chat is not registered either. -/
def join (chat : Int64) (aliasName : String) (store : Store) : Except Error Subscription × Store :=
  match store.sharedAs? aliasName with
  | none => (.error (.invalid (.aliasUnknown aliasName)), store)
  | some joined =>
    let (user, store) := store.register chat
    (.ok joined, store.linkOnce ⟨user.id, joined.id⟩)

/-- Removes the shared subscription of an alias, with its links. -/
def unshare (aliasName : String) (store : Store) : Except Error Subscription × Store :=
  match store.sharedAs? aliasName with
  | none => (.error (.invalid (.aliasUnknown aliasName)), store)
  | some removed =>
    (.ok removed, { store with
      links := store.links.filter fun link => link.subscription != removed.id
      subscriptions := store.subscriptions.filter fun s => s.id != removed.id })

/-- The subscriptions without the personal ones of this identifier, if no
link leads to it any more. -/
def dropOrphan (id : Int64) (links : List Link) (subscriptions : List Subscription) :
    List Subscription :=
  if links.any fun link => link.subscription = id then subscriptions
  else subscriptions.filter fun s => s.id != id || s.shared

/-- Unlinks a chat from a subscription; says whether it was linked.  A
personal subscription goes with its last link. -/
def remove (chat id : Int64) (store : Store) : Bool × Store :=
  match store.userOf? chat with
  | none => (false, store)
  | some user =>
    let link : Link := ⟨user.id, id⟩
    if store.links.contains link then
      let links := store.links.filter (· != link)
      (true, { store with links, subscriptions := dropOrphan id links store.subscriptions })
    else (false, store)

/-- Moves the cursor forward; says whether it moved. -/
def advance (timestamp : UInt64) (store : Store) : Bool × Store :=
  if store.cursor < timestamp then (true, { store with cursor := timestamp }) else (false, store)

end Store

end BoardRelay
