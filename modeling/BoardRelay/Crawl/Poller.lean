/-
  BoardRelay.Crawl.Poller
  ────────────────────────────────
  Cycles at a fixed interval.  Every tick makes an attempt at a cycle, and all
  attempts go to one gate: who finds it taken is turned away at once, who
  passes keeps it until the cycle ends.  When the poller is stopped, no
  further tick comes, and the cycles that run then are waited for.
-/
import BoardRelay.Clock.Agenda

namespace BoardRelay.Crawl

namespace Poller

/-- What a poller waits for. -/
inductive Event where
  | tick
  /-- The cycle of the attempt of a number ends. -/
  | finish (number : Nat)
  | stop
  deriving Repr, DecidableEq

/-- What came of a tick. -/
structure Visit where
  /-- The instant of the tick. -/
  tick : Nat
  /-- How long its cycle takes, unless the attempt was turned away. -/
  duration? : Option Nat
  deriving Repr, DecidableEq

/-- A cycle that has been let in and has not ended. -/
structure Attempt (σ : Type) where
  number : Nat
  /-- The instant at which it ends. -/
  finish : Nat
  /-- What it leaves behind when it ends. -/
  left : σ

end Poller

/-- A poller on a clock. -/
structure Poller (σ : Type) where
  state : σ
  agenda : Clock.Agenda Poller.Event
  /-- Whether the gate is taken. -/
  taken : Bool
  running : List (Poller.Attempt σ)
  stopped : Bool
  /-- How many ticks came. -/
  triggered : Nat
  /-- What came of each of them. -/
  visits : List Poller.Visit

namespace Poller

variable {σ : Type}

/-- A poller to be stopped at an instant, before its first tick. -/
def opening (stop : Nat) (state : σ) : Poller σ :=
  ⟨state, (Clock.Agenda.empty.note 0 .tick).note stop .stop, false, [], false, 0, []⟩

/-- Lets the attempt of a number in.  Its cycle tells how long it takes. -/
def letIn (cycle : σ → Nat × σ) (now number : Nat) (poller : Poller σ) : Poller σ :=
  let (duration, left) := cycle poller.state
  { poller with
    agenda := poller.agenda.note (now + duration) (.finish number)
    taken := true
    running := poller.running ++ [⟨number, now + duration, left⟩]
    visits := poller.visits ++ [⟨now, some duration⟩] }

/-- The attempt of a number comes to the gate. -/
def knock (cycle : σ → Nat × σ) (now number : Nat) (poller : Poller σ) : Poller σ :=
  if poller.taken then { poller with visits := poller.visits ++ [⟨now, none⟩] }
  else poller.letIn cycle now number

/-- The cycle of the attempt of a number ends, and the gate is free again. -/
def conclude (number : Nat) (poller : Poller σ) : Poller σ :=
  match poller.running.find? fun attempt => attempt.number = number with
  | none => poller
  | some attempt =>
    { poller with
      state := attempt.left
      taken := false
      running := poller.running.filter fun other => other.number != number }

/-- What an event does. -/
def handle (interval : Nat) (cycle : σ → Nat × σ) (now : Nat) (event : Event)
    (poller : Poller σ) : Poller σ :=
  match event with
  | .tick =>
    if poller.stopped then poller
    else
      let ticked := { poller with
        agenda := poller.agenda.note (now + interval) .tick
        triggered := poller.triggered + 1 }
      ticked.knock cycle now poller.triggered
  | .finish number => poller.conclude number
  | .stop => { poller with stopped := true }

/-- Handles up to so many events, until the poller is stopped and no cycle
runs.  Gives the instant of that. -/
def run (interval : Nat) (cycle : σ → Nat × σ) : Nat → Nat → Poller σ → Nat × Poller σ
  | 0, now, poller => (now, poller)
  | count + 1, now, poller =>
    if poller.stopped && poller.running.isEmpty then (now, poller)
    else
      match poller.agenda.next? with
      | none => (now, poller)
      | some ((due, event), agenda) =>
        run interval cycle count due (handle interval cycle due event { poller with agenda })

/-- Polls until a cycle-free instant at or after the stop.  There are at
most two events for each tick before the stop, one tick after it, and the
stop itself. -/
def poll (interval stop : Nat) (cycle : σ → Nat × σ) (state : σ) : Nat × Poller σ :=
  run interval cycle (2 * (stop / interval) + 6) 0 (opening stop state)

end Poller

end BoardRelay.Crawl
