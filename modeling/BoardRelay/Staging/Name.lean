/-
  BoardRelay.Staging.Name
  ────────────────────────────────
  File names in the staging area.  A locator becomes a single name: what
  follows its last double slash, without slashes and without its first dot.
-/
import BoardRelay.Text.Search

namespace BoardRelay.Staging

open BoardRelay.Text

/-- The name under which a locator is staged. -/
def stagedName (locator : String) : String :=
  let tail := (afterLast? ['/', '/'] locator.toList).getD locator.toList
  String.ofList ((tail.filter (· != '/')).erase '.')

/-- The ending of locators whose files are staged. -/
def videoEnding : List Char :=
  ".webm".toList

/-- The ending of converted files. -/
def convertedEnding : List Char :=
  ".mp4".toList

/-- Whether a locator is that of a video, which has to be converted. -/
def isVideo (locator : String) : Bool :=
  videoEnding.isSuffixOf locator.toList

/-- The locator that stands for the converted form of a video. -/
def convertedLocator (locator : String) : String :=
  let kept := locator.toList.length - videoEnding.length
  String.ofList (locator.toList.take kept ++ convertedEnding)

/-- The name of a file that is being written, by the number of the write. -/
def partName (name : String) (number : Nat) : String :=
  name ++ ".part" ++ toString number

end BoardRelay.Staging
