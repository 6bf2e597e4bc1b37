/-
  BoardRelay.Url.Error
  ────────────────────────────────
  Why a text is no URL.
-/

namespace BoardRelay.Url

/-- The first problem of a text that was to be a URL. -/
inductive ReadError where
  | emptyHost
  /-- The host is no domain name, or holds characters that none may hold. -/
  | invalidDomain
  | invalidPort
  | invalidIpv4
  | invalidIpv6
  /-- The host of a scheme without domain names holds a forbidden character. -/
  | invalidHostCharacter
  /-- There is no scheme in front. -/
  | relative
  deriving Repr, DecidableEq

/-- The wording of a problem. -/
def ReadError.message : ReadError → String
  | .emptyHost => "empty host"
  | .invalidDomain => "invalid international domain name"
  | .invalidPort => "invalid port number"
  | .invalidIpv4 => "invalid IPv4 address"
  | .invalidIpv6 => "invalid IPv6 address"
  | .invalidHostCharacter => "invalid domain character"
  | .relative => "relative URL without a base"

end BoardRelay.Url
