/-
  BoardRelay.Disk.Path
  ────────────────────────────────
  Paths as the steps they take.  Repeated slashes and dots between slashes
  take no step and are dropped; how a path ends is kept, because an ending
  slash or dot asks for a directory.
-/
import BoardRelay.Text.Search

namespace BoardRelay.Disk

/-- One step of a path. -/
inductive Step where
  /-- Into an entry of the directory. -/
  | into (name : String)
  /-- To the directory above. -/
  | up
  deriving Repr, DecidableEq

/-- How a path ends. -/
inductive Ending where
  | plain
  | slash
  | dot
  deriving Repr, DecidableEq

/-- A path. -/
structure Path where
  /-- Whether the path starts at the root rather than at the current directory. -/
  absolute : Bool
  steps : List Step
  ending : Ending
  deriving Repr, DecidableEq

namespace Path

/-- The steps of a text between slashes. -/
def stepsOf (parts : List (List Char)) : List Step :=
  parts.filterMap fun part =>
    if part = [] ∨ part = ['.'] then none
    else if part = ['.', '.'] then some .up
    else some (.into (String.ofList part))

/-- The path that a text names. -/
def ofText (text : String) : Path :=
  let parts := Text.pieces '/' text.toList
  let ending :=
    if parts.getLast? = some ['.'] then .dot
    else if parts.getLast? = some [] ∧ text ≠ "" then .slash
    else .plain
  ⟨text.startsWith "/", stepsOf parts, ending⟩

/-- A step as it is written. -/
def stepText : Step → String
  | .into name => name
  | .up => ".."

/-- The path as a text. -/
def text (path : Path) : String :=
  (if path.absolute then "/" else "") ++ String.intercalate "/" (path.steps.map stepText) ++
    match path.ending with
    | .plain => ""
    | .slash => if path.steps.isEmpty then "" else "/"
    | .dot => if path.steps.isEmpty then "." else "/."

/-- Whether nothing is named at all. -/
def isEmpty (path : Path) : Bool :=
  !path.absolute && path.steps.isEmpty && path.ending = .plain

/-- The second path as seen from the first.  Joining nothing asks for a
directory. -/
def join (base relative : Path) : Path :=
  if relative.absolute then relative
  else if relative.isEmpty then { base with ending := .slash }
  else ⟨base.absolute, base.steps ++ relative.steps, relative.ending⟩

/-- The path without its last step. -/
def parent? (path : Path) : Option Path :=
  if path.steps.isEmpty then none else some ⟨path.absolute, path.steps.dropLast, .plain⟩

/-- The name of the last step, if it is a step into something. -/
def fileName? (path : Path) : Option String :=
  match path.steps.getLast? with
  | some (.into name) => some name
  | _ => none

/-- The path to a neighbour of another name.  A path that ends in no name
gets the name as a further step. -/
def withFileName (path : Path) (name : String) : Path :=
  match path.fileName? with
  | some _ => ⟨path.absolute, path.steps.dropLast ++ [.into name], .plain⟩
  | none => ⟨path.absolute, path.steps ++ [.into name], .plain⟩

/-- A file name without its extension: what stands before the last dot,
unless that dot comes first. -/
def stem (name : List Char) : List Char :=
  match Text.afterLast? ['.'] name with
  | none => name
  | some extension =>
    let before := name.take (name.length - extension.length - 1)
    if before.isEmpty then name else before

/-- The path to a neighbour with the same stem and another extension. -/
def withExtension (path : Path) (extension : String) : Path :=
  match path.fileName? with
  | none => path
  | some name =>
    path.withFileName (String.ofList (stem name.toList ++ '.' :: extension.toList))

end Path

end BoardRelay.Disk
