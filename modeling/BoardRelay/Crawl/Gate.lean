/-
  BoardRelay.Crawl.Gate
  ────────────────────────────────
  Cycles that share one gate.  Whoever finds the gate taken is turned away
  with nothing done; whoever passes keeps the gate until the cycle ends, be
  it with a report, with an error or at the deadline.
-/
import BoardRelay.Crawl.Cycle
import BoardRelay.Crawl.Limits

namespace BoardRelay.Crawl

/-- How far an attempt at a cycle is. -/
inductive Phase where
  | outside
  /-- Past the gate. -/
  | inside (cycle : Cycle)
  /-- Over, with all that the attempt asked and sent. -/
  | returned (result : Except Error Report) (trace : Trace)
  deriving DecidableEq

/-- A gate with the attempts at it, by number, and what they all work on. -/
structure Gate (σ : Type) where
  taken : Bool
  phases : List Phase
  state : σ

namespace Gate

variable {σ : Type}

/-- A free gate before so many attempts. -/
def free (attempts : Nat) (state : σ) : Gate σ :=
  ⟨false, List.replicate attempts .outside, state⟩

/-- How far the attempt of a number is. -/
def phase (number : Nat) (gate : Gate σ) : Phase :=
  gate.phases[number]?.getD .outside

/-- The gate with the attempt of a number taken to a phase. -/
def withPhase (number : Nat) (phase : Phase) (gate : Gate σ) : Gate σ :=
  { gate with phases := gate.phases.set number phase }

/-- The gate given back by an attempt that is over. -/
def release (number : Nat) (result : Except Error Report) (trace : Trace) (gate : Gate σ) :
    Gate σ :=
  { gate.withPhase number (.returned result trace) with taken := false }

/-- An attempt comes to the gate. -/
def enter (registry : Registry σ) (limits : Limits) (number : Nat) (gate : Gate σ) : Gate σ :=
  match gate.phase number with
  | .outside =>
    if gate.taken then gate.withPhase number (.returned (.error .cycleInProgress) .none)
    else match Cycle.start registry limits.maxConcurrent gate.state with
      | .error e => gate.withPhase number (.returned (.error e) .none)
      | .ok cycle => { gate.withPhase number (.inside cycle) with taken := true }
  | _ => gate

/-- A step of an errand, by the positions of attempt and errand. -/
def work (site : Site) (registry : Registry σ) (number position : Nat) (step : Step)
    (gate : Gate σ) : Gate σ :=
  match gate.phase number with
  | .inside cycle =>
    match cycle.step site registry gate.state position step with
    | some cycle => gate.withPhase number (.inside cycle)
    | none => gate
  | _ => gate

/-- The deadline of an attempt. -/
def expire (limits : Limits) (number : Nat) (gate : Gate σ) : Gate σ :=
  match gate.phase number with
  | .inside cycle =>
    gate.release number (.error (.cycleDeadline limits.deadlineSeconds)) cycle.trace
  | _ => gate

/-- The end of an attempt whose errands are all settled. -/
def finish (registry : Registry σ) (number : Nat) (gate : Gate σ) : Gate σ :=
  match gate.phase number with
  | .inside cycle =>
    if cycle.isSettled then
      let (result, trace, state) := cycle.commit registry gate.state
      { gate with state }.release number result trace
    else gate
  | _ => gate

end Gate

end BoardRelay.Crawl
