/-
  BoardRelay.Delivery.Sink
  ────────────────────────────────
  Where files go.  A sink takes files by their locator, and files on disk.
  A file on disk may go away as soon as the sink has taken it, so its
  content is read at once.
-/
import BoardRelay.Delivery.Send
import BoardRelay.Disk.Basic
import BoardRelay.Error
import BoardRelay.Http.Client
import BoardRelay.Json.Compact

namespace BoardRelay.Delivery

/-! ## §1. Sinks -/

/-- A file on disk on its way to those who want it. -/
structure Upload where
  receivers : List User
  path : Disk.Path
  caption : String
  deriving Repr, DecidableEq

/-- A sink with a state of its own. -/
structure Sink (σ : Type) where
  send : Send → Disk → σ → Except Error Unit × σ
  upload : Upload → Disk → σ → Except Error Unit × σ

/-- A file on disk as if its path were a locator. -/
def Upload.asSend (upload : Upload) : Send :=
  ⟨upload.receivers, upload.path.text, upload.caption⟩

/-- The sink that takes locators only, and paths as locators. -/
def Sink.ofSend {σ : Type} (send : Send → Disk → σ → Except Error Unit × σ) : Sink σ :=
  ⟨send, fun upload => send upload.asSend⟩

/-- The sink that only notes what it takes. -/
def Sink.log {σ : Type} : Sink σ :=
  .ofSend fun _ _ state => (.ok (), state)

/-! ## §2. Webhooks -/

/-- The chats of users as a value. -/
def chats (users : List User) : Json :=
  .array (users.map fun user => .integer user.chat.toInt)

/-- The message about a file by its locator. -/
def message (send : Send) : Http.Body :=
  .json (String.ofList (Json.compact (.record [("chat_ids", chats send.receivers),
    ("resource", .text send.locator), ("caption", .text send.caption)])))

/-- The message with a file's content. -/
def form (upload : Upload) (content : Text.Bytes) : Http.Body :=
  .form [("chat_ids", String.ofList (Json.compact (chats upload.receivers))),
    ("caption", upload.caption)] (upload.path.fileName?.getD "file") content

/-- Posts a message to a webhook. -/
def post (client : Http.Client) (url : String) (body : Http.Body) : Except Error Unit :=
  match client.post url body with
  | .ok () => .ok ()
  | .error e => .error (.fetch url (.receiver e))

/-- The sink that posts to a webhook: locators as they are, files with their
content. -/
def Sink.webhook {σ : Type} (client : Http.Client) (url : String) : Sink σ where
  send send _ state := (post client url (message send), state)
  upload upload disk state :=
    match disk.read upload.path with
    | .error fault => (.error (.disk fault), state)
    | .ok content => (post client url (form upload content), state)

end BoardRelay.Delivery
