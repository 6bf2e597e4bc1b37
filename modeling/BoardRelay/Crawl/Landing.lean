/-
  BoardRelay.Crawl.Landing
  ────────────────────────────────
  Waiting for the deliveries of a report.  Each comes to its end by itself,
  in whatever order; they are waited for one after the other, and one that
  died is not counted.
-/
import BoardRelay.Crawl.Cycle

namespace BoardRelay.Crawl

/-- A delivery, with what becomes of it. -/
structure Flight where
  outcome : Outcome Unit
  /-- Whether it has come to its end. -/
  landed : Bool
  deriving Repr, DecidableEq

/-- The deliveries still to be waited for, and how many were completed. -/
structure Landing where
  waiting : List Flight
  completed : Nat
  deriving Repr, DecidableEq

namespace Landing

/-- What may happen while deliveries are waited for. -/
inductive Step where
  /-- The delivery at a position comes to its end. -/
  | land (position : Nat)
  /-- The first delivery has landed, and the next one is waited for. -/
  | next
  deriving Repr, DecidableEq

/-- The deliveries of a report, before any of them is waited for. -/
def ofReport (fate : Nat → Send → Outcome Unit) (report : Report) : Landing :=
  ⟨(report.sends.mapIdx fate).map fun outcome => ⟨outcome, false⟩, 0⟩

/-- What a step makes of a landing, if it can be made. -/
def step (landing : Landing) : Step → Option Landing
  | .land position =>
    match landing.waiting[position]? with
    | some flight =>
      if flight.landed then none
      else some { landing with
        waiting := landing.waiting.set position { flight with landed := true } }
    | none => none
  | .next =>
    match landing.waiting with
    | [] => none
    | flight :: waiting =>
      if flight.landed then
        match flight.outcome with
        | .collapse => some ⟨waiting, landing.completed⟩
        | _ => some ⟨waiting, landing.completed + 1⟩
      else none

/-- The landing after some steps; a step that cannot be made changes
nothing. -/
def after (steps : List Step) (landing : Landing) : Landing :=
  steps.foldl (fun landing step => (landing.step step).getD landing) landing

/-- Waits for all deliveries, each of which lands when it is waited for. -/
def wait (landing : Landing) : Landing :=
  landing.after (landing.waiting.flatMap fun _ => [.land 0, .next])

end Landing

end BoardRelay.Crawl
