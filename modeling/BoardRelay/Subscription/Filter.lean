/-
  BoardRelay.Subscription.Filter
  ────────────────────────────────
  What a subscription selects: threads by its tags, files by its kinds.  A
  tag expression that cannot be read selects no thread.
-/
import BoardRelay.FileKinds
import BoardRelay.Subscription
import BoardRelay.Tags.Reader

namespace BoardRelay

/-- A subscription's tags and kinds, read. -/
structure Filter where
  query : Tags.Query
  kinds : FileKinds
  deriving Repr, DecidableEq

/-- The filter of a subscription. -/
def Subscription.filter (s : Subscription) : Filter :=
  ⟨Tags.Query.compile s.tags, FileKinds.read s.kinds⟩

end BoardRelay
