/-
  BoardRelay.Crawl.Errand
  ────────────────────────────────
  What a cycle does for one board, in atomic steps.

      waiting ──list──▶ listing ──listed──▶ looking ──lookup…──▶ fetching
                                                     ──fetch/fetched…──▶ reported

  A listing that fails is reported as a failure; a question that its asker
  dies of ends the errand without a report.  At most `width` threads are
  being fetched at a time.
-/
import BoardRelay.Crawl.Match
import BoardRelay.Crawl.Site

namespace BoardRelay.Crawl

/-- What an errand has to report. -/
structure Tally where
  /-- The time of the newest post seen, or the cursor. -/
  newest : UInt64
  /-- Whether the board could not be listed. -/
  failed : Bool
  /-- How many threads were worth fetching. -/
  matched : Nat
  /-- How many of them could not be fetched. -/
  failures : Nat
  sends : List Send
  deriving Repr, DecidableEq

/-- How far an errand is. -/
inductive Stage where
  | waiting
  | listing
  /-- Subscribers of the positions in `missing` are still to be looked up. -/
  | looking (found : List Match) (missing : List Nat) (users : Subscribers)
  | fetching (queued running : List Job) (tally : Tally)
  | reported (tally : Tally)
  | dead
  deriving Repr, DecidableEq

/-- The work for one board. -/
structure Errand where
  board : String
  subscriptions : List Subscription
  stage : Stage
  deriving Repr, DecidableEq

/-- A step of an errand. -/
inductive Step where
  /-- Asks for the listing. -/
  | list
  /-- The listing comes back. -/
  | listed
  /-- Looks up the subscribers of the subscription at a position. -/
  | lookup (position : Nat)
  /-- Asks for the next thread. -/
  | fetch
  /-- The thread of a job comes back. -/
  | fetched (job : Nat)
  deriving Repr, DecidableEq

/-- A question that a cycle asks. -/
inductive Call where
  | list (board : String)
  | lookup (subscription : Int64)
  | fetch (board thread : String)
  | advance (timestamp : UInt64)
  deriving Repr, DecidableEq

/-- What a step does besides changing the errand. -/
structure Trace where
  calls : List Call
  sends : List Send
  deriving Repr, DecidableEq

namespace Trace

/-- Nothing. -/
def none : Trace :=
  ⟨[], []⟩

/-- One question. -/
def call (call : Call) : Trace :=
  ⟨[call], []⟩

/-- One trace after another. -/
def append (first second : Trace) : Trace :=
  ⟨first.calls ++ second.calls, first.sends ++ second.sends⟩

end Trace

/-- The tally with nothing in it. -/
def Tally.blank (cursor : UInt64) : Tally :=
  ⟨cursor, false, 0, 0, []⟩

/-- The tally with a fetched thread added. -/
def Tally.addThread (latest : UInt64) (sends : List Send) (tally : Tally) : Tally :=
  { tally with newest := max tally.newest latest, sends := tally.sends ++ sends }

/-- The tally with a thread added that could not be fetched. -/
def Tally.addFailure (tally : Tally) : Tally :=
  { tally with failures := tally.failures + 1 }

namespace Errand

/-- Whether nothing more will come of an errand. -/
def isSettled (errand : Errand) : Bool :=
  match errand.stage with
  | .reported _ => true
  | .dead => true
  | _ => false

/-- The stage of fetching, or the report if there is nothing left to fetch. -/
def fetchingOrDone (queued running : List Job) (tally : Tally) : Stage :=
  if queued.isEmpty && running.isEmpty then .reported tally else .fetching queued running tally

/-- The stage of looking up, or the one after it if nothing is missing. -/
def lookingOrFetching (cursor : UInt64) (subscriptions : List Subscription) (found : List Match)
    (missing : List Nat) (users : Subscribers) : Stage :=
  if missing.isEmpty then
    let queued := jobs subscriptions users found
    fetchingOrDone queued [] { Tally.blank cursor with matched := queued.length }
  else .looking found missing users

/-- The errand after its listing came back. -/
def takeListing (cursor : UInt64) (outcome : Outcome Listing) (errand : Errand) : Stage :=
  match outcome with
  | .collapse => .dead
  | .failure => .reported { Tally.blank cursor with failed := true }
  | .answer listing =>
    let found := matched errand.subscriptions listing
    lookingOrFetching cursor errand.subscriptions found (needed errand.subscriptions found) []

/-- What follows from a thread that came back. -/
def takePosts (site : Site) (cursor : UInt64) (job : Job) (outcome : Outcome Posts)
    (queued running : List Job) (tally : Tally) : Stage × Trace :=
  match outcome with
  | .collapse => (.dead, .none)
  | .failure => (fetchingOrDone queued running tally.addFailure, .none)
  | .answer posts =>
    let sent := sends site.resource cursor job posts
    (fetchingOrDone queued running (tally.addThread (newest cursor posts) sent), ⟨[], sent⟩)

/-- What a step makes of an errand, if it can be made. -/
def step {σ : Type} (site : Site) (registry : Registry σ) (state : σ) (cursor : UInt64)
    (width : Nat) (errand : Errand) : Step → Option (Errand × Trace)
  | .list =>
    match errand.stage with
    | .waiting => some ({ errand with stage := .listing }, .call (.list errand.board))
    | _ => none
  | .listed =>
    match errand.stage with
    | .listing =>
      some ({ errand with stage := errand.takeListing cursor (site.listing errand.board) }, .none)
    | _ => none
  | .lookup position =>
    match errand.stage, errand.subscriptions[position]? with
    | .looking found missing users, some s =>
      if missing.contains position then
        let known := match registry.subscribers s.id state with
          | .ok known => known
          | .error _ => []
        let stage := lookingOrFetching cursor errand.subscriptions found
          (missing.erase position) (users ++ [(position, known)])
        some ({ errand with stage }, .call (.lookup s.id))
      else none
    | _, _ => none
  | .fetch =>
    match errand.stage with
    | .fetching (job :: queued) running tally =>
      if running.length < width then
        some ({ errand with stage := .fetching queued (running ++ [job]) tally },
          .call (.fetch errand.board job.thread))
      else none
    | _ => none
  | .fetched number =>
    match errand.stage with
    | .fetching queued running tally =>
      match running.find? fun job => job.number = number with
      | some job =>
        let outcome := site.posts errand.board job.thread
        let others := running.filter fun other => other.number != number
        let (stage, trace) := takePosts site cursor job outcome queued others tally
        some ({ errand with stage }, trace)
      | none => none
    | _ => none

end Errand

end BoardRelay.Crawl
