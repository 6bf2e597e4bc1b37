/-
  BoardRelay.FileKinds
  ────────────────────────────────
  File kinds: which files a subscriber wants.  An expression such as
  `.img.webm` lists kinds; a file belongs to a kind by the end of its name.
  Case of ASCII letters is ignored on both sides, unknown kinds are skipped.
-/
import BoardRelay.Text.Blank
import BoardRelay.Text.Search

namespace BoardRelay

open BoardRelay.Text

/-- A kind of file that can be asked for. -/
inductive FileKind where
  | image
  | gif
  | webm
  deriving Repr, DecidableEq

namespace FileKind

/-- The kinds in the order in which they are written. -/
def all : List FileKind :=
  [.image, .gif, .webm]

/-- The word for a kind in an expression. -/
def word : FileKind → List Char
  | .image => ['i', 'm', 'g']
  | .gif => ['g', 'i', 'f']
  | .webm => ['w', 'e', 'b', 'm']

/-- The name endings of a kind, in lower case. -/
def endings : FileKind → List (List Char)
  | .image => [".png".toList, ".jpg".toList, ".jpeg".toList]
  | .gif => [".gif".toList]
  | .webm => [".webm".toList]

/-- Whether a file name in lower case belongs to the kind. -/
def accepts (loweredName : List Char) (kind : FileKind) : Bool :=
  kind.endings.any fun ending => ending.isSuffixOf loweredName

end FileKind

/-- A set of file kinds. -/
structure FileKinds where
  image : Bool
  gif : Bool
  webm : Bool
  deriving Repr, DecidableEq

namespace FileKinds

/-- Whether a kind is in the set. -/
def has (kinds : FileKinds) : FileKind → Bool
  | .image => kinds.image
  | .gif => kinds.gif
  | .webm => kinds.webm

/-- The words of an expression: its dot-separated pieces, trimmed and in
lower case. -/
def words (source : List Char) : List (List Char) :=
  (pieces '.' source).map fun piece => asciiLower (trim piece)

/-- The kinds that an expression names. -/
def read (source : String) : FileKinds :=
  let listed := words source.toList
  ⟨listed.contains FileKind.image.word, listed.contains FileKind.gif.word,
    listed.contains FileKind.webm.word⟩

/-- The set without kinds. -/
def isEmpty (kinds : FileKinds) : Bool :=
  FileKind.all.all fun kind => !kinds.has kind

/-- Whether a file of this name is of one of the kinds. -/
def accepts (kinds : FileKinds) (name : String) : Bool :=
  let lowered := asciiLower name.toList
  FileKind.all.any fun kind => kinds.has kind && kind.accepts lowered

/-- The set as an expression: every kind once, in the order of `FileKind.all`. -/
def write (kinds : FileKinds) : String :=
  String.ofList ((FileKind.all.filter kinds.has).flatMap fun kind => '.' :: kind.word)

end FileKinds

end BoardRelay
