/-
  BoardRelay.Url.Basic
  ────────────────────────────────
  URLs in parts, each part already in its normal form, and the text that
  they are written as.
-/
import BoardRelay.Url.Host

namespace BoardRelay

/-- What follows scheme and host. -/
inductive Url.Route where
  /-- Segments, each with a slash in front. -/
  | rooted (segments : List String)
  /-- A text that is no path, as in `mailto:`. -/
  | rootless (text : String)
  deriving Repr, DecidableEq

/-- A URL. -/
structure Url where
  scheme : String
  user : String
  password : String
  /-- The server, or `none` for a URL without an authority. -/
  host : Option Url.Host
  /-- The port, where it is not the usual one of the scheme. -/
  port : Option Nat
  route : Url.Route
  query : Option String
  fragment : Option String
  deriving Repr, DecidableEq

namespace Url

/-- The usual port of a scheme. -/
def defaultPort? (scheme : String) : Option Nat :=
  match scheme with
  | "http" => some 80
  | "ws" => some 80
  | "https" => some 443
  | "wss" => some 443
  | "ftp" => some 21
  | _ => none

/-- Whether the hosts of a scheme are domain names. -/
def isSpecial (scheme : String) : Bool :=
  scheme = "file" || (defaultPort? scheme).isSome

/-- User and password as they stand before a host. -/
def credentials (url : Url) : String :=
  if url.user = "" ∧ url.password = "" then ""
  else url.user ++ (if url.password = "" then "" else ":" ++ url.password) ++ "@"

/-- The part between the scheme and the route. -/
def authority (url : Url) : String :=
  match url.host with
  | some host =>
    "//" ++ url.credentials ++ String.ofList host.text ++
      (url.port.map fun port => ":" ++ toString port).getD ""
  | none =>
    match url.route with
    | .rooted ("" :: _ :: _) => "/."
    | _ => ""

/-- The route as text. -/
def Route.text : Route → String
  | .rooted segments => String.join (segments.map fun segment => "/" ++ segment)
  | .rootless text => text

/-- The URL as text. -/
def text (url : Url) : String :=
  url.scheme ++ ":" ++ url.authority ++ url.route.text ++
    (url.query.map ("?" ++ ·)).getD "" ++ (url.fragment.map ("#" ++ ·)).getD ""

/-- Whether the URL names a server. -/
def hasHost (url : Url) : Bool :=
  match url.host with
  | none => false
  | some host => host != .name ""

/-- The URL without user and password. -/
def anonymous (url : Url) : Url :=
  { url with user := "", password := "" }

end Url

end BoardRelay
