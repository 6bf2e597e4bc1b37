/-
  BoardRelay.Endpoint
  ────────────────────────────────
  Endpoint templates.  A template is a text with named places in braces;
  filling it replaces one name after another in the text as it then is.
-/
import BoardRelay.Text.Search

namespace BoardRelay.Endpoint

open BoardRelay.Text

/-- A name as it stands in a template. -/
def placeholder (name : String) : List Char :=
  '\x7b' :: name.toList ++ ['\x7d']

/-- The template with every place of one name filled. -/
def fillOne (template : List Char) (name value : String) : List Char :=
  replaceAll (placeholder name) value.toList template

/-- The template with the names filled in order. -/
def fill (template : String) (values : List (String × String)) : String :=
  String.ofList (values.foldl (fun text (name, value) => fillOne text name value) template.toList)

/-- Whether a template has a place of this name. -/
def mentions (template : String) (name : String) : Bool :=
  occurs (placeholder name) template.toList

end BoardRelay.Endpoint
