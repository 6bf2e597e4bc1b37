/-
  BoardRelay.Subscription.Request
  ────────────────────────────────
  Subscriptions as users ask for them.

      personal  :=  board ' ' kinds ' ' tags
      shared    :=  board ' ' kinds ' ' tags alias

  The parts are cut at single blanks; the tags may hold more of them.  The
  alias of a shared subscription is what follows the last quote.
-/
import BoardRelay.Error
import BoardRelay.Subscription
import BoardRelay.Tags.Reader

namespace BoardRelay.Subscription

open BoardRelay.Text

/-- A character of a board name. -/
def isBoardChar (c : Char) : Bool :=
  c.isAlphanum || c = '_'

/-- A board name: letters, digits and underscores. -/
def isBoardName (s : List Char) : Bool :=
  !s.isEmpty && s.all isBoardChar

/-- A kind list: words of letters and digits, each with a dot in front. -/
def isKindList (s : List Char) : Bool :=
  match s with
  | '.' :: rest => (pieces '.' rest).all fun word => !word.isEmpty && word.all Char.isAlphanum
  | _ => false

/-- Board, kinds and the rest of a request.  The rest is trimmed and not
blank. -/
def split (request : String) : Except Error (List Char × List Char × List Char) :=
  let parts := do
    let (board, rest) ← cut? ' ' (trim request.toList)
    let (kinds, rest) ← cut? ' ' rest
    if allBlank rest then none else some (board, kinds, trim rest)
  match parts with
  | some parts => .ok parts
  | none => .error (.invalid .requestShape)

/-- The subscription that the parts make, if each of them is sound. -/
def build (board kinds tags aliasName : List Char) (shared : Bool) : Except Error Subscription :=
  let text := String.ofList
  if !isBoardName board then .error (.invalid (.boardName (text board)))
  else if !isKindList kinds then .error (.invalid (.kindList (text kinds)))
  else match Tags.Query.read (text tags) with
    | .error e => .error (.query e)
    | .ok _ => .ok ⟨0, text board, text tags, text kinds, text aliasName, shared⟩

/-- The personal subscription that a request asks for. -/
def ofRequest (request : String) : Except Error Subscription := do
  let (board, kinds, tags) ← split request
  build board kinds tags [] false

/-- Tags up to the last quote, and the alias after it. -/
def splitAlias (rest : List Char) : Except Error (List Char × List Char) :=
  match afterLast? ['"'] rest with
  | none => .error (.invalid .missingTags)
  | some after =>
    let aliasName := trim after
    if aliasName.isEmpty || aliasName.any isBlank then .error (.invalid .aliasShape)
    else .ok (rest.take (rest.length - after.length), aliasName)

/-- The shared subscription that a request asks for. -/
def ofSharedRequest (request : String) : Except Error Subscription := do
  let (board, kinds, rest) ← split request
  let (tags, aliasName) ← splitAlias rest
  build board kinds tags aliasName true

end BoardRelay.Subscription
