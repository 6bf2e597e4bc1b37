/-
  BoardRelay.Http.Error
  ────────────────────────────────
  Why an exchange with a server failed.
-/

namespace BoardRelay.Http

/-- What went wrong with a request or with its answer. -/
inductive Error where
  /-- The request cannot be built; the URL is given if the text is one. -/
  | unusable (url : Option String)
  /-- The server could not be reached or did not answer. -/
  | unanswered (url : String)
  /-- The server answered with a status that means failure. -/
  | status (code : Nat) (url : String)
  /-- More redirects came than are followed. -/
  | redirects (url : String)
  /-- The answer ended early. -/
  | truncated
  deriving Repr, DecidableEq

/-- The reason phrase of a status. -/
def reason (code : Nat) : String :=
  match code with
  | 400 => "Bad Request"
  | 401 => "Unauthorized"
  | 402 => "Payment Required"
  | 403 => "Forbidden"
  | 404 => "Not Found"
  | 405 => "Method Not Allowed"
  | 406 => "Not Acceptable"
  | 407 => "Proxy Authentication Required"
  | 408 => "Request Timeout"
  | 409 => "Conflict"
  | 410 => "Gone"
  | 411 => "Length Required"
  | 412 => "Precondition Failed"
  | 413 => "Payload Too Large"
  | 414 => "URI Too Long"
  | 415 => "Unsupported Media Type"
  | 416 => "Range Not Satisfiable"
  | 417 => "Expectation Failed"
  | 418 => "I\x27m a teapot"
  | 421 => "Misdirected Request"
  | 422 => "Unprocessable Entity"
  | 423 => "Locked"
  | 424 => "Failed Dependency"
  | 426 => "Upgrade Required"
  | 428 => "Precondition Required"
  | 429 => "Too Many Requests"
  | 431 => "Request Header Fields Too Large"
  | 451 => "Unavailable For Legal Reasons"
  | 500 => "Internal Server Error"
  | 501 => "Not Implemented"
  | 502 => "Bad Gateway"
  | 503 => "Service Unavailable"
  | 504 => "Gateway Timeout"
  | 505 => "HTTP Version Not Supported"
  | 506 => "Variant Also Negotiates"
  | 507 => "Insufficient Storage"
  | 508 => "Loop Detected"
  | 510 => "Not Extended"
  | 511 => "Network Authentication Required"
  | _ => "<unknown status code>"

/-- The addition that names a URL. -/
def forUrl (url : String) : String :=
  " for url (" ++ url ++ ")"

/-- The wording of an error. -/
def Error.message : Error → String
  | .unusable url => "builder error" ++ (url.map forUrl).getD ""
  | .unanswered url => "error sending request" ++ forUrl url
  | .status code url =>
    "HTTP status " ++ (if code < 500 then "client" else "server") ++ " error (" ++ toString code ++
      " " ++ reason code ++ ")" ++ forUrl url
  | .redirects url => "error following redirect" ++ forUrl url
  | .truncated => "error decoding response body"

end BoardRelay.Http
