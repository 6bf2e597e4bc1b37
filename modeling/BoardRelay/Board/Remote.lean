/-
  BoardRelay.Board.Remote
  ────────────────────────────────
  An imageboard behind a client: where its listings, threads and files are,
  and what it answers.
-/
import BoardRelay.Board.Payload
import BoardRelay.Endpoint
import BoardRelay.Error
import BoardRelay.Http.Client
import BoardRelay.Json.Reader
import BoardRelay.Settings.Basic

namespace BoardRelay

/-- A site that is asked through a client. -/
structure Remote where
  client : Http.Client
  endpoints : Settings.Endpoints

namespace Remote

/-- Asks for a JSON text and decodes it. -/
def fetch {α : Type} (decoder : Json.Decoder α) (url : String) (remote : Remote) :
    Except FetchFault α :=
  match remote.client.get url with
  | .error e => .error (.http e)
  | .ok content =>
    match (Json.read? content).bind decoder with
    | some value => .ok value
    | none => .error .undecodable

/-- Where the listing of a board is. -/
def listingUrl (board : String) (remote : Remote) : String :=
  Endpoint.fill remote.endpoints.listing [("board", board)]

/-- Where a thread of a board is. -/
def threadUrl (board thread : String) (remote : Remote) : String :=
  Endpoint.fill remote.endpoints.thread [("board", board), ("thread", thread)]

/-- Where a file is. -/
def resource (path : String) (remote : Remote) : String :=
  Endpoint.fill remote.endpoints.resource [("path", path)]

/-- The threads now on a board. -/
def listing (board : String) (remote : Remote) : Except Error Listing :=
  match remote.fetch Listing.decode (remote.listingUrl board) with
  | .ok listing => .ok listing
  | .error fault => .error (.fetch ("board /" ++ board ++ "/") fault)

/-- The posts of a thread. -/
def posts (board thread : String) (remote : Remote) : Except Error Posts :=
  match remote.fetch ThreadPayload.decode (remote.threadUrl board thread) with
  | .ok payload => .ok payload.flatten
  | .error fault => .error (.fetch ("thread /" ++ board ++ "/" ++ thread) fault)

end Remote

end BoardRelay
