/-
  BoardRelay.Subscription.Record
  ────────────────────────────────
  Users, subscriptions and links as JSON records.
-/
import BoardRelay.Subscription
import BoardRelay.Json.Record

namespace BoardRelay

open BoardRelay.Json

/-- A user as a record. -/
def User.encode (user : User) : Json :=
  .record [("id", .integer user.id.toInt), ("chat_id", .integer user.chat.toInt)]

/-- The user that a record stands for. -/
def User.decode : Decoder User := fun value => do
  let given ← fields .refused ["id", "chat_id"] value
  let id ← required asSignedWord given "id"
  let chat ← required asSignedWord given "chat_id"
  return ⟨id, chat⟩

/-- A subscription as a record. -/
def Subscription.encode (s : Subscription) : Json :=
  .record [("id", .integer s.id.toInt), ("board", .text s.board), ("tags", .text s.tags),
    ("types", .text s.kinds), ("alias", .text s.aliasName), ("is_default", .boolean s.shared)]

/-- The subscription that a record stands for.  Without an alias it has an
empty one; unless said so it is not shared. -/
def Subscription.decode : Decoder Subscription := fun value => do
  let given ← fields .refused ["id", "board", "tags", "types", "alias", "is_default"] value
  let id ← required asSignedWord given "id"
  let board ← required asText given "board"
  let tags ← required asText given "tags"
  let kinds ← required asText given "types"
  let aliasName ← optional "" asText given "alias"
  let shared ← optional false asBoolean given "is_default"
  return ⟨id, board, tags, kinds, aliasName, shared⟩

/-- A link as a record. -/
def Link.encode (link : Link) : Json :=
  .record [("user_id", .integer link.user.toInt),
    ("subscription_id", .integer link.subscription.toInt)]

/-- The link that a record stands for. -/
def Link.decode : Decoder Link := fun value => do
  let given ← fields .refused ["user_id", "subscription_id"] value
  let user ← required asSignedWord given "user_id"
  let subscription ← required asSignedWord given "subscription_id"
  return ⟨user, subscription⟩

end BoardRelay
