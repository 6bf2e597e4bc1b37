/-
  BoardRelay.Crawl.Limits
  ────────────────────────────────
  What bounds a cycle.
-/
import BoardRelay.Settings.Basic

namespace BoardRelay.Crawl

/-- The bounds of a cycle. -/
structure Limits where
  /-- How many threads of a board are fetched at a time. -/
  maxConcurrent : Nat
  /-- How long the cycle may take, in milliseconds. -/
  deadline : Nat
  deriving Repr, DecidableEq

/-- The bounds that the settings ask for; at least one thread is fetched at
a time. -/
def Limits.ofSettings (settings : Settings.Crawl) : Limits :=
  ⟨max 1 settings.maxConcurrent.toNat, settings.deadlineSeconds.toNat * 1000⟩

/-- The whole seconds of the deadline. -/
def Limits.deadlineSeconds (limits : Limits) : Nat :=
  limits.deadline / 1000

end BoardRelay.Crawl
