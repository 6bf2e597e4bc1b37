/-
  BoardRelay.Store.Record
  ────────────────────────────────
  A store as a JSON document, and the text that a store file holds.
-/
import BoardRelay.Json.Printer
import BoardRelay.Json.Reader
import BoardRelay.Store.Basic
import BoardRelay.Subscription.Record
import BoardRelay.Text.Utf8

namespace BoardRelay.Store

open BoardRelay.Json

/-- A store as a record. -/
def encode (store : Store) : Json :=
  .record [("users", .array (store.users.map User.encode)),
    ("subscriptions", .array (store.subscriptions.map Subscription.encode)),
    ("links", .array (store.links.map Link.encode)),
    ("cursor", .integer store.cursor.toNat)]

/-- The store that a record stands for.  What is missing is empty. -/
def decode : Decoder Store := fun value => do
  let given ← fields .refused ["users", "subscriptions", "links", "cursor"] value
  let users ← optional [] (asList User.decode) given "users"
  let subscriptions ← optional [] (asList Subscription.decode) given "subscriptions"
  let links ← optional [] (asList Link.decode) given "links"
  let cursor ← optional 0 asWord given "cursor"
  return ⟨users, subscriptions, links, cursor⟩

/-- The content of a store file. -/
def write (store : Store) : Text.Bytes :=
  Text.encode (Json.print store.encode)

/-- The store that a file's content stands for. -/
def read? (content : Text.Bytes) : Option Store :=
  (Json.read? content).bind decode

end BoardRelay.Store
