/-
  BoardRelay.Crawl.Cycle
  ────────────────────────────────
  One cycle: an errand for each board that anyone subscribes to, and in the
  end one attempt to move the cursor to the newest post seen.  The errands'
  steps may come in any order; the cycle ends when all errands are settled.
-/
import BoardRelay.Crawl.Errand

namespace BoardRelay.Crawl

/-! ## §1. Errands -/

/-- A name put into its place among names in ascending order, once. -/
def insertName (name : String) : List String → List String
  | [] => [name]
  | other :: rest =>
    if name = other then other :: rest
    else if name < other then name :: other :: rest
    else other :: insertName name rest

/-- The boards of subscriptions, each once, in ascending order. -/
def boardsOf (subscriptions : List Subscription) : List String :=
  subscriptions.foldr (fun s names => insertName s.board names) []

/-- The errand of a board, still to begin. -/
def errandOf (subscriptions : List Subscription) (board : String) : Errand :=
  ⟨board, subscriptions.filter fun s => s.board = board, .waiting⟩

/-- A cycle on its way. -/
structure Cycle where
  /-- The cursor when the cycle began; only newer posts matter. -/
  cursor : UInt64
  /-- How many threads of a board are fetched at a time. -/
  width : Nat
  errands : List Errand
  /-- What was asked and sent so far. -/
  trace : Trace
  deriving Repr, DecidableEq

/-- What a finished cycle reports. -/
structure Report where
  boards : Nat
  boardFailures : Nat
  threadsMatched : Nat
  threadFailures : Nat
  cursorBefore : UInt64
  cursorAfter : UInt64
  /-- What the boards that reported have sent. -/
  sends : List Send
  deriving Repr, DecidableEq

/-- Whether the cycle moved the cursor. -/
def Report.advanced (report : Report) : Bool :=
  report.cursorBefore < report.cursorAfter

namespace Cycle

/-- Begins a cycle: reads the cursor and who subscribes to what. -/
def start {σ : Type} (registry : Registry σ) (width : Nat) (state : σ) : Except Error Cycle := do
  let cursor ← registry.cursor state
  let subscriptions ← registry.subscriptions state
  return ⟨cursor, max 1 width, (boardsOf subscriptions).map (errandOf subscriptions), .none⟩

/-- What a step of the errand at a position makes of the cycle, if it can be
made. -/
def step {σ : Type} (site : Site) (registry : Registry σ) (state : σ) (position : Nat)
    (step : Step) (cycle : Cycle) : Option Cycle := do
  let errand ← cycle.errands[position]?
  let (errand, trace) ← errand.step site registry state cycle.cursor cycle.width step
  return { cycle with
    errands := cycle.errands.set position errand
    trace := cycle.trace.append trace }

/-- Whether all errands are settled. -/
def isSettled (cycle : Cycle) : Bool :=
  cycle.errands.all Errand.isSettled

/-! ## §2. The end of a cycle -/

/-- What an errand has reported. -/
def tallyOf? (errand : Errand) : Option Tally :=
  match errand.stage with
  | .reported tally => some tally
  | _ => none

/-- The reports of the errands. -/
def tallies (cycle : Cycle) : List Tally :=
  cycle.errands.filterMap tallyOf?

/-- The time of the newest post that was reported, or the cursor. -/
def newest (cycle : Cycle) : UInt64 :=
  cycle.tallies.foldl (fun latest tally => max latest tally.newest) cycle.cursor

/-- The report of a cycle that leaves the cursor where `after` says.  Boards
without a report count as failed. -/
def report (after : UInt64) (cycle : Cycle) : Report where
  boards := cycle.errands.length
  boardFailures :=
    cycle.errands.length - cycle.tallies.length + cycle.tallies.countP (·.failed)
  threadsMatched := cycle.tallies.foldl (fun sum tally => sum + tally.matched) 0
  threadFailures := cycle.tallies.foldl (fun sum tally => sum + tally.failures) 0
  cursorBefore := cycle.cursor
  cursorAfter := after
  sends := cycle.tallies.flatMap (·.sends)

/-- Ends a cycle: moves the cursor if a newer post was seen.  If someone
else has moved it further, the report tells how far. -/
def commit {σ : Type} (registry : Registry σ) (state : σ) (cycle : Cycle) :
    Except Error Report × Trace × σ :=
  if cycle.cursor < cycle.newest then
    let trace := cycle.trace.append (.call (.advance cycle.newest))
    match registry.advance cycle.newest state with
    | (.error e, state) => (.error e, trace, state)
    | (.ok true, state) => (.ok (cycle.report cycle.newest), trace, state)
    | (.ok false, state) => ((registry.cursor state).map fun now => cycle.report now, trace, state)
  else (.ok (cycle.report cycle.cursor), cycle.trace, state)

end Cycle

end BoardRelay.Crawl
