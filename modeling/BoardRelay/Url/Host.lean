/-
  BoardRelay.Url.Host
  ────────────────────────────────
  Hosts: domain names and addresses.  A domain name is written in lower case
  and in ASCII; a name whose last label is a number is an IPv4 address.
-/
import BoardRelay.Text.Lowercase
import BoardRelay.Text.PrintTable
import BoardRelay.Text.Search
import BoardRelay.Url.Error
import BoardRelay.Url.Escape
import BoardRelay.Url.Punycode

namespace BoardRelay.Url

open BoardRelay.Text

/-- Where a server is. -/
inductive Host where
  | name (text : String)
  | ipv4 (address : Nat)
  /-- Eight groups of 16 bits. -/
  | ipv6 (groups : List Nat)
  deriving Repr, DecidableEq

/-! ## §1. Addresses -/

/-- A part of an IPv4 address, in hexadecimal, octal or decimal digits. -/
def ipv4Part? : List Char → Option Nat
  | [] => none
  | '0' :: 'x' :: digits => number? 16 digits
  | '0' :: 'X' :: digits => number? 16 digits
  | '0' :: d :: digits => number? 8 (d :: digits)
  | digits => number? 10 digits

/-- The labels of a name, without the empty one that an ending dot leaves. -/
def labels (name : List Char) : List (List Char) :=
  let parts := pieces '.' name
  if parts.getLast? = some [] then parts.dropLast else parts

/-- Whether a name is meant as an IPv4 address. -/
def endsInNumber (name : List Char) : Bool :=
  match (labels name).getLast? with
  | none => false
  | some last => (!last.isEmpty && last.all Char.isDigit) || (ipv4Part? last).isSome

/-- An IPv4 address.  Up to four parts; the last fills what the others
leave. -/
def readIpv4 (name : List Char) : Except ReadError Host :=
  match (labels name).mapM ipv4Part? with
  | none => .error .invalidIpv4
  | some numbers =>
    match numbers.reverse with
    | [] => .error .invalidIpv4
    | last :: front =>
      if 4 < numbers.length ∨ Nat.pow 256 (4 - front.length) ≤ last ∨ front.any (255 < ·) then
        .error .invalidIpv4
      else
        let add (sum : Nat) (entry : Nat × Nat) : Nat := sum + entry.1 * Nat.pow 256 (3 - entry.2)
        .ok (.ipv4 (numbers.dropLast.zipIdx.foldl add last))

/-- A part of an IPv4 address at the end of an IPv6 address: decimal, without
leading zeros. -/
def embeddedPart? (part : List Char) : Option Nat := do
  if part.isEmpty ∨ (part.length ≠ 1 ∧ part.head? = some '0') then none
  else
    let value ← number? 10 part
    if value ≤ 255 then some value else none

/-- The two groups of an embedded IPv4 address. -/
def embeddedGroups? (text : List Char) : Option (List Nat) := do
  match ← (pieces '.' text).mapM embeddedPart? with
  | [a, b, c, d] => some [a * 256 + b, c * 256 + d]
  | _ => none

/-- A group of an IPv6 address. -/
def group? (text : List Char) : Option Nat :=
  if text.isEmpty ∨ 4 < text.length then none else number? 16 text

/-- The groups of one side of a `::`.  The last one of all may be an IPv4
address. -/
def groups? (isLastSide : Bool) (text : List Char) : Option (List Nat) :=
  if text.isEmpty then some []
  else
    let parts := pieces ':' text
    match parts.getLast? with
    | none => some []
    | some last =>
      if isLastSide ∧ last.contains '.' then do
        let front ← parts.dropLast.mapM group?
        let back ← embeddedGroups? last
        return front ++ back
      else parts.mapM group?

/-- The text before the first `::` and the text after it. -/
def cutAtGap? : List Char → Option (List Char × List Char)
  | ':' :: ':' :: rest => some ([], rest)
  | c :: rest => (cutAtGap? rest).map fun (before, after) => (c :: before, after)
  | [] => none

/-- An IPv6 address.  A `::` stands for one or more groups of zeros. -/
def readIpv6 (text : List Char) : Except ReadError Host :=
  let groups := match cutAtGap? text with
    | none => do
      let all ← groups? true text
      if all.length = 8 then some all else none
    | some (before, after) => do
      let front ← groups? false before
      let back ← groups? true after
      if front.length + back.length < 8 then
        some (front ++ List.replicate (8 - front.length - back.length) 0 ++ back)
      else none
  match groups with
  | some groups => .ok (.ipv6 groups)
  | none => .error .invalidIpv6

/-! ## §2. Names -/

/-- A character that a domain name leaves out: soft hyphens, marks without
width, variation selectors. -/
def isIgnored (c : Char) : Bool :=
  ['\u00ad', '\u034f', '\u200b', '\u2060', '\u2064', '\ufeff'].contains c ||
    (0x180b ≤ c.toNat && c.toNat ≤ 0x180f && c.toNat ≠ 0x180e) ||
    (0xfe00 ≤ c.toNat && c.toNat ≤ 0xfe0f)

/-- A character of a domain name as it is compared: full stops of other
scripts are dots, wide forms are plain, capitals are small. -/
def domainForm (c : Char) : List Char :=
  if c = '\u3002' ∨ c = '\uff0e' ∨ c = '\uff61' then ['.']
  else if isIgnored c then []
  else if 0xff01 ≤ c.toNat ∧ c.toNat ≤ 0xff5e then lowerChar (Char.ofNat (c.toNat - 0xfee0))
  else lowerChar c

/-- Whether a character can stand in no domain name: controls, formats,
unassigned ones, spaces, and what divides the parts of a URL. -/
def isForbidden (c : Char) : Bool :=
  inRanges unprintableRanges c.toNat ||
    [' ', '#', '%', '/', ':', '<', '>', '?', '@', '[', '\\', ']', '^', '|'].contains c

/-- Whether a label is in ASCII. -/
def isAscii (label : List Char) : Bool :=
  label.all fun c => c.toNat < 0x80

/-- A label in ASCII.  One that is written as an encoded label has to be
one. -/
def asciiLabel? : List Char → Option (List Char)
  | 'x' :: 'n' :: '-' :: '-' :: encoded => do
    let label ← Punycode.decode? encoded
    if isAscii label ∨ label.flatMap domainForm ≠ label ∨ label.any isForbidden then none
    else some ('x' :: 'n' :: '-' :: '-' :: encoded)
  | label =>
    if isAscii label then some label
    else some ('x' :: 'n' :: '-' :: '-' :: Punycode.encode label)

/-- A domain name in ASCII. -/
def asciiDomain? (text : List Char) : Option (List Char) := do
  let formed := text.flatMap domainForm
  if formed.any isForbidden then none
  else
    let names ← (pieces '.' formed).mapM asciiLabel?
    return List.intercalate ['.'] names

/-- The host of a scheme with domain names. -/
def readHost (text : List Char) : Except ReadError Host :=
  match text with
  | '[' :: inside =>
    if inside.getLast? = some ']' then readIpv6 inside.dropLast else .error .invalidIpv6
  | _ =>
    match (decode? (unescape text)).bind asciiDomain? with
    | none => .error .invalidDomain
    | some [] => .error .emptyHost
    | some name =>
      if endsInNumber name then readIpv4 name else .ok (.name (String.ofList name))

/-- The host of a scheme without domain names. -/
def readForeignHost (text : List Char) : Except ReadError Host :=
  match text with
  | '[' :: inside =>
    if inside.getLast? = some ']' then readIpv6 inside.dropLast else .error .invalidIpv6
  | _ =>
    if text.any fun c => ['\x00', '\t', '\n', '\r', ' ', '#', '/', ':', '<', '>', '?', '@', '[',
        '\\', ']', '^', '|'].contains c then
      .error .invalidHostCharacter
    else .ok (.name (String.ofList (escape isControl text)))

/-! ## §3. Written forms -/

/-- The place and the length of the first of the longest runs of zeros. -/
def longestZeros (groups : List Nat) : Nat × Nat :=
  let runs := (List.range groups.length).map fun start =>
    (start, ((groups.drop start).takeWhile (· = 0)).length)
  runs.foldl (fun best run => if best.2 < run.2 then run else best) (0, 0)

/-- Groups with colons between. -/
def writeGroups (groups : List Nat) : List Char :=
  List.intercalate [':'] (groups.map (Nat.toDigits 16))

/-- A host as it is written in a URL. -/
def Host.text : Host → List Char
  | .name text => text.toList
  | .ipv4 address =>
    List.intercalate ['.'] ([16777216, 65536, 256, 1].map fun unit =>
      Nat.toDigits 10 (address / unit % 256))
  | .ipv6 groups =>
    let (start, length) := longestZeros groups
    let before := writeGroups (groups.take start)
    let after := writeGroups (groups.drop (start + length))
    let inside := if length < 2 then writeGroups groups else before ++ [':', ':'] ++ after
    '[' :: inside ++ [']']

end BoardRelay.Url
