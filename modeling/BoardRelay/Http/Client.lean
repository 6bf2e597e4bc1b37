/-
  BoardRelay.Http.Client
  ────────────────────────────────
  Requests and what becomes of them.  A network is what answers a request;
  the client builds the request, follows redirects and turns everything that
  is no success into an error.
-/
import BoardRelay.Http.Error
import BoardRelay.Text.Utf8
import BoardRelay.Url.Reader

namespace BoardRelay.Http

/-! ## §1. Networks -/

/-- What a request carries. -/
inductive Body where
  | none
  /-- A JSON text. -/
  | json (text : String)
  /-- A form with text fields and one file. -/
  | form (fields : List (String × String)) (fileName : String) (content : Text.Bytes)
  deriving Repr, DecidableEq

/-- What a request is for. -/
inductive Method where
  | get
  | post
  deriving Repr, DecidableEq

/-- A request as a server gets it. -/
structure Request where
  method : Method
  url : String
  userAgent : String
  body : Body
  deriving Repr, DecidableEq

/-- What comes back. -/
inductive Answer where
  /-- Nothing: no server, or the connection was closed. -/
  | nothing
  /-- A status, a redirect target, and content that is `complete` or cut off. -/
  | response (status : Nat) (location : Option String) (content : Text.Bytes) (complete : Bool)
  deriving Repr, DecidableEq

/-- Whatever answers requests. -/
abbrev Network := Request → Answer

/-- The network without servers. -/
def Network.unreachable : Network :=
  fun _ => .nothing

/-! ## §2. The client -/

/-- A client: what it calls itself, and the network it is on. -/
structure Client where
  userAgent : String
  network : Network

/-- Whether a text can be the value of a header. -/
def isHeaderValue (text : String) : Bool :=
  text.toList.all fun c => (' ' ≤ c && c != '\x7f') || c = '\t'

/-- A client of this name, if it can be sent. -/
def Client.make (userAgent : String) (network : Network) : Except Error Client :=
  if isHeaderValue userAgent then .ok ⟨userAgent, network⟩ else .error (.unusable none)

/-- Whether a host can stand in a request. -/
def isRequestHost (host : Url.Host) : Bool :=
  !host.text.any fun c => ['"', '\x60', '\x7b', '\x7d'].contains c

/-- The URL to ask for, without user and password. -/
def target (text : String) : Except Error Url :=
  match Url.read text with
  | .error _ => .error (.unusable none)
  | .ok url =>
    if url.hasHost ∧ (url.scheme = "http" ∨ url.scheme = "https") ∧
        url.host.all isRequestHost then
      .ok url.anonymous
    else .error (.unusable (some (if url.hasHost then url.anonymous else url).text))

/-- How many redirects are followed. -/
def maxRedirects : Nat :=
  10

/-- Where an answer redirects to. -/
def redirect? (status : Nat) (location : Option String) : Option Url :=
  if [301, 302, 303, 307, 308].contains status then
    location.bind fun text => (target text).toOption
  else none

/-- The request that follows a redirect: one that is not to be repeated as
it is becomes a plain request for the new place. -/
def followUp (status : Nat) (url : Url) (request : Request) : Request :=
  if [307, 308].contains status then { request with url := url.text }
  else { request with method := .get, url := url.text, body := .none }

/-- Sends a request, with this many redirects still to be followed. -/
def Client.exchange (client : Client) (request : Request) (budget : Nat) :
    Except Error (Text.Bytes × Bool) :=
  match client.network request with
  | .nothing => .error (.unanswered request.url)
  | .response status location content complete =>
    match redirect? status location, budget with
    | some _, 0 => .error (.redirects request.url)
    | some url, budget + 1 => client.exchange (followUp status url request) budget
    | none, _ =>
      if 400 ≤ status ∧ status < 600 then .error (.status status request.url)
      else .ok (content, complete)
termination_by budget

/-- Sends a request to the URL that a text is. -/
def Client.send (client : Client) (method : Method) (text : String) (body : Body) :
    Except Error (Text.Bytes × Bool) := do
  let url ← target text
  client.exchange ⟨method, url.text, client.userAgent, body⟩ maxRedirects

/-- The content at a URL. -/
def Client.get (client : Client) (text : String) : Except Error Text.Bytes := do
  let (content, complete) ← client.send .get text .none
  if complete then .ok content else .error .truncated

/-- Sends something to a URL; what comes back does not matter if it is no
failure. -/
def Client.post (client : Client) (text : String) (body : Body) : Except Error Unit := do
  let _ ← client.send .post text body

end BoardRelay.Http
