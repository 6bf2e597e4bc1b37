/-
  BoardRelay.Crawl.Rehearsal
  ────────────────────────────────
  A crawl in which everything outside is made up beforehand: what the site
  answers and when, which questions to the registry fail, who else moves the
  cursor, and what becomes of the files that are sent.
-/
import BoardRelay.Crawl.Landing
import BoardRelay.Crawl.Timed
import BoardRelay.Endpoint

namespace BoardRelay.Crawl

/-- An answer made up beforehand. -/
structure Cue (α : Type) where
  /-- How long it takes, in milliseconds. -/
  delay : Nat
  outcome : Outcome α

/-- Which questions to the registry fail. -/
structure Faults where
  cursor : Bool
  subscriptions : Bool
  advance : Bool
  /-- The subscriptions whose users cannot be looked up. -/
  lookup : List Int64
  deriving Repr, DecidableEq

/-- Everything that is made up. -/
structure Script where
  boards : List (String × Cue Listing)
  /-- By board and thread with a slash between. -/
  threads : List (String × Cue Posts)
  /-- The template of file locators. -/
  resource : String
  limits : Limits
  faults : Faults
  /-- Where someone else moves the cursor just before the crawl does. -/
  race : Option UInt64
  /-- The locators whose delivery fails. -/
  failing : List String
  /-- The locators whose delivery dies. -/
  dying : List String

namespace Script

/-- The cue for a name; what is not in the script fails at once. -/
def cue {α : Type} (cues : List (String × Cue α)) (name : String) : Cue α :=
  (cues.lookup name).getD ⟨0, .failure⟩

/-- The name of a thread in a script. -/
def threadName (board thread : String) : String :=
  board ++ "/" ++ thread

/-- The site of a script. -/
def site (script : Script) : Site where
  listing board := (cue script.boards board).outcome
  posts board thread := (cue script.threads (threadName board thread)).outcome
  resource path := Endpoint.fill script.resource [("path", path)]

/-- The pace of a script. -/
def pace (script : Script) : Pace where
  listing board := (cue script.boards board).delay
  posts board thread := (cue script.threads (threadName board thread)).delay

/-- The failure of a question to the registry. -/
def locked : Error :=
  .store (.reported "database is locked")

/-- Another writer moves the cursor. -/
def overtake (script : Script) (store : Store) : Store :=
  match script.race with
  | none => store
  | some timestamp => (store.advance timestamp).2

/-- The registry of a script, over a store in memory. -/
def registry (script : Script) : Registry Store where
  cursor store := if script.faults.cursor then .error locked else .ok store.cursor
  subscriptions store :=
    if script.faults.subscriptions then .error locked else .ok store.subscriptions
  subscribers subscription store :=
    if script.faults.lookup.contains subscription then .error locked
    else .ok (store.subscribersOf subscription)
  advance timestamp store :=
    if script.faults.advance then (.error locked, store)
    else Registry.memory.advance timestamp (script.overtake store)

/-- All that a cycle runs with. -/
def setting (script : Script) : Setting Store :=
  ⟨script.site, script.pace, script.registry, script.limits⟩

/-- Whether a delivery comes to an end, be it a failure. -/
def completes (script : Script) (send : Send) : Bool :=
  !script.dying.contains send.locator

/-- Whether a delivery fails. -/
def fails (script : Script) (send : Send) : Bool :=
  script.failing.contains send.locator

/-- What becomes of a delivery. -/
def fate (script : Script) (send : Send) : Outcome Unit :=
  if !script.completes send then .collapse
  else if script.fails send then .failure
  else .answer ()

/-- What a gate's attempts have asked and sent. -/
def traceOf {σ : Type} (gate : Gate σ) : Trace :=
  gate.phases.foldl (fun trace phase =>
    match phase with
    | .returned _ more => trace.append more
    | _ => trace) .none

/-- One cycle of a poller: how long it takes, with what it asks and sends
added to what came before. -/
def tick (script : Script) (state : Store × Trace) : Nat × Store × Trace :=
  let (elapsed, gate) := play script.setting 1 state.1
  (elapsed, gate.state, state.2.append (traceOf gate))

end Script

end BoardRelay.Crawl
