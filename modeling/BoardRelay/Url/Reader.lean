/-
  BoardRelay.Url.Reader
  ────────────────────────────────
  Reading a URL.  Texts are read leniently and brought into normal form:
  blanks around are dropped, capitals in scheme and host lowered, backslashes
  taken for slashes where the scheme has domain names, dot segments walked,
  and what must be escaped is escaped.
-/
import BoardRelay.Url.Basic

namespace BoardRelay.Url

open BoardRelay.Text

/-! ## §1. Cutting a text into parts -/

/-- A text without controls and blanks at its ends, and without tabs and
line ends anywhere. -/
def tidy (s : List Char) : List Char :=
  let outer (c : Char) : Bool := c ≤ ' '
  ((s.dropWhile outer).reverse.dropWhile outer).reverse.filter fun c =>
    c != '\t' && c != '\n' && c != '\r'

/-- The scheme in front of the first colon, in lower case, and the rest. -/
def cutScheme? (s : List Char) : Option (String × List Char) :=
  match s with
  | [] => none
  | first :: _ =>
    let inScheme (c : Char) : Bool := c.isAlphanum || c = '+' || c = '-' || c = '.'
    match s.dropWhile inScheme with
    | ':' :: rest =>
      if first.isAlpha then some (String.ofList (asciiLower (s.takeWhile inScheme)), rest)
      else none
    | _ => none

/-- Whether a character ends an authority. -/
def endsAuthority (special : Bool) (c : Char) : Bool :=
  c = '/' || c = '?' || c = '#' || (special && c = '\\')

/-- Whether a character is a slash. -/
def isSlash (special : Bool) (c : Char) : Bool :=
  c = '/' || (special && c = '\\')

/-- The text before the last at sign and the text after it. -/
def cutUser? (authority : List Char) : Option (List Char × List Char) :=
  (afterLast? ['@'] authority).map fun after =>
    (authority.take (authority.length - after.length - 1), after)

/-- The host in front of a port: it ends at a colon outside of brackets. -/
def hostLength : Bool → List Char → Nat
  | _, [] => 0
  | inside, c :: rest =>
    if c = ':' && !inside then 0
    else hostLength (if c = '[' then true else if c = ']' then false else inside) rest + 1

/-! ## §2. Authority -/

/-- A port in decimal digits; none if there are no digits. -/
def readPort (digits : List Char) : Except ReadError (Option Nat) :=
  if digits.isEmpty then .ok none
  else if digits.all Char.isDigit then
    match number? 10 digits with
    | some port => if port ≤ 65535 then .ok (some port) else .error .invalidPort
    | none => .error .invalidPort
  else .error .invalidPort

/-- What stands between the slashes and the route. -/
structure Authority where
  user : String
  password : String
  host : Host
  port : Option Nat

/-- User and password in front of an at sign. -/
def readUser (text : List Char) : String × String :=
  let (user, password) := (cut? ':' text).getD (text, [])
  (String.ofList (escape inUserSet user), String.ofList (escape inUserSet password))

/-- The host of a scheme. -/
def readHostOf (special : Bool) (text : List Char) : Except ReadError Host :=
  if special then (if text.isEmpty then .error .emptyHost else readHost text)
  else readForeignHost text

/-- An authority, and what is left for the route.  `after` is what follows
the authority. -/
def readAuthority (scheme : String) (text after : List Char) :
    Except ReadError (Authority × List Char) := do
  let special := isSpecial scheme
  let (info, hostAndPort) := (cutUser? text).getD ([], text)
  if (cutUser? text).isSome ∧ info.isEmpty ∧ hostAndPort.isEmpty ∧ !after.isEmpty then
    throw .emptyHost
  let (user, password) := readUser info
  let length := hostLength false hostAndPort
  let host ← readHostOf special (hostAndPort.take length)
  let portText := (hostAndPort.drop length).drop 1
  if host = .name "" ∧ (length < hostAndPort.length ∨ user ≠ "" ∨ password ≠ "") then
    throw .emptyHost
  let port ← readPort (portText.takeWhile (· != '\\'))
  let port := if port = defaultPort? scheme then none else port
  return (⟨user, password, host, port⟩, portText.dropWhile (· != '\\') ++ after)

/-! ## §3. Routes -/

/-- A segment with its escaped dots undone. -/
def plainDots (segment : List Char) : List Char :=
  match segment with
  | '%' :: '2' :: 'e' :: rest => '.' :: plainDots rest
  | '%' :: '2' :: 'E' :: rest => '.' :: plainDots rest
  | c :: rest => c :: plainDots rest
  | [] => []

/-- Whether a segment is a drive letter of a local file. -/
def isDrive (segment : List Char) : Bool :=
  match segment with
  | [letter, mark] => letter.isAlpha && (mark = ':' || mark = '|')
  | _ => false

/-- The segments without the last one.  The drive of a local file stays. -/
def dropSegment (isFile : Bool) (segments : List String) : List String :=
  match segments with
  | [drive] => if isFile && isDrive drive.toList then [drive] else []
  | _ => segments.dropLast

/-- Adds a segment: dots are walked, drive letters are followed by a colon. -/
def addSegment (isFile isLast : Bool) (segments : List String) (segment : List Char) :
    List String :=
  if plainDots segment = ['.', '.'] then
    dropSegment isFile segments ++ (if isLast then [""] else [])
  else if plainDots segment = ['.'] then
    segments ++ (if isLast then [""] else [])
  else if isFile && segments.isEmpty && isDrive segment then
    [String.ofList (segment.take 1 ++ [':'])]
  else segments ++ [String.ofList (escape inPathSet segment)]

/-- Adds segments one after another. -/
def addSegments (isFile : Bool) : List String → List (List Char) → List String
  | segments, [] => segments
  | segments, segment :: others =>
    addSegments isFile (addSegment isFile others.isEmpty segments segment) others

/-- The segments of a text between slashes. -/
def readSegments (scheme : String) (text : List Char) : List String :=
  let special := isSpecial scheme
  let parts := pieces '/' (text.map fun c => if isSlash special c then '/' else c)
  let segments := addSegments (scheme = "file") [] parts
  if scheme = "file" then
    match segments.dropWhile (· = "") with
    | [] => [""]
    | kept => kept
  else segments

/-- A query and a fragment. -/
def readTail (scheme : String) (text : List Char) : Option String × Option String :=
  let beforeFragment := text.takeWhile (· != '#')
  let set := if isSpecial scheme then inSpecialQuerySet else inQuerySet
  let query := match beforeFragment with
    | '?' :: query => some (String.ofList (escape set query))
    | _ => none
  let fragment := match text.dropWhile (· != '#') with
    | '#' :: fragment => some (String.ofList (escape inFragmentSet fragment))
    | _ => none
  (query, fragment)

/-- Whether a character ends a path. -/
def endsPath (c : Char) : Bool :=
  c = '?' || c = '#'

/-- The route after an authority. -/
def readRoute (scheme : String) (text : List Char) : Route :=
  let path := text.takeWhile fun c => !endsPath c
  match path with
  | [] => .rooted (if isSpecial scheme then [""] else [])
  | c :: rest => .rooted (readSegments scheme (if isSlash (isSpecial scheme) c then rest else path))

/-! ## §4. Whole URLs -/

/-- The URL of a scheme with an authority, read after the two slashes. -/
def readWithAuthority (scheme : String) (text : List Char) : Except ReadError Url := do
  let special := isSpecial scheme
  let authorityText := text.takeWhile fun c => !endsAuthority special c
  let (authority, rest) ←
    readAuthority scheme authorityText (text.dropWhile fun c => !endsAuthority special c)
  let (query, fragment) := readTail scheme (rest.dropWhile fun c => !endsPath c)
  return ⟨scheme, authority.user, authority.password, some authority.host, authority.port,
    readRoute scheme rest, query, fragment⟩

/-- The URL of a local file, read after the colon. -/
def readFile (text : List Char) : Except ReadError Url := do
  let (hostText, rest) := match text with
    | a :: b :: rest =>
      if isSlash true a ∧ isSlash true b then
        let hostText := rest.takeWhile fun c => !endsAuthority true c
        if isDrive hostText then ([], rest)
        else (hostText, rest.dropWhile fun c => !endsAuthority true c)
      else ([], text)
    | _ => ([], text)
  let host ← if hostText.isEmpty then pure (Host.name "") else readHost hostText
  let host := if host = .name "localhost" then .name "" else host
  let (query, fragment) := readTail "file" (rest.dropWhile fun c => !endsPath c)
  return ⟨"file", "", "", some host, none, readRoute "file" rest, query, fragment⟩

/-- The URL of a scheme without an authority, read after the colon. -/
def readBare (scheme : String) (text : List Char) : Url :=
  let path := text.takeWhile fun c => !endsPath c
  let (query, fragment) := readTail scheme (text.dropWhile fun c => !endsPath c)
  let route := match path with
    | '/' :: rest => Route.rooted (readSegments scheme rest)
    | _ => Route.rootless (String.ofList (escape isControl path))
  ⟨scheme, "", "", none, none, route, query, fragment⟩

/-- The URL that a text is, or its first problem. -/
def read (text : String) : Except ReadError Url :=
  match cutScheme? (tidy text.toList) with
  | none => .error .relative
  | some (scheme, rest) =>
    if scheme = "file" then readFile rest
    else if isSpecial scheme then
      readWithAuthority scheme (rest.dropWhile (isSlash true))
    else match rest with
      | '/' :: '/' :: rest => readWithAuthority scheme rest
      | _ => .ok (readBare scheme rest)

end BoardRelay.Url
