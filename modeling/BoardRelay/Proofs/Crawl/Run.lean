/-
  BoardRelay.Proofs.Crawl.Run
  ────────────────────────────────
  Runs of a gate: any list of events, each of which concerns one attempt.
  An event that cannot happen changes nothing, so a list of events stands
  for every order in which the parts of all attempts may take their turns.

  The events that do something are rules of a relation (`Gate.Moves`), and
  at most one attempt at a time is past the gate (`Gate.Exclusive`).
-/
import BoardRelay.Crawl.Timed

namespace BoardRelay.Crawl

variable {σ : Type}

/-! ## §1. Events. -/

/-- What may happen at a gate. -/
inductive Event where
  | enter (attempt : Nat)
  /-- A step of the errand at a position. -/
  | work (attempt position : Nat) (step : Step)
  | expire (attempt : Nat)
  | finish (attempt : Nat)
  deriving Repr, DecidableEq

/-- The attempt that an event concerns. -/
def Event.attempt : Event → Nat
  | .enter attempt => attempt
  | .work attempt _ _ => attempt
  | .expire attempt => attempt
  | .finish attempt => attempt

/-- Whether an event is the deadline of an attempt. -/
def Event.isExpiry : Event → Bool
  | .expire _ => true
  | _ => false

namespace Gate

/-- What an event makes of a gate, if each attempt has a setting of its
own. -/
def handle (settings : Nat → Setting σ) (gate : Gate σ) (event : Event) : Gate σ :=
  if event.attempt < gate.phases.length then
    match event with
    | .enter attempt =>
      gate.enter (settings attempt).registry (settings attempt).limits attempt
    | .work attempt position step =>
      gate.work (settings attempt).site (settings attempt).registry attempt position step
    | .expire attempt => gate.expire (settings attempt).limits attempt
    | .finish attempt => gate.finish (settings attempt).registry attempt
  else gate

/-- The gate after some events. -/
def after (settings : Nat → Setting σ) (events : List Event) (gate : Gate σ) : Gate σ :=
  events.foldl (handle settings) gate

@[simp]
theorem after_nil (settings : Nat → Setting σ) (gate : Gate σ) :
    gate.after settings [] = gate :=
  rfl

@[simp]
theorem after_cons (settings : Nat → Setting σ) (event : Event) (events : List Event)
    (gate : Gate σ) :
    gate.after settings (event :: events) = (gate.handle settings event).after settings events :=
  rfl

theorem after_append (settings : Nat → Setting σ) (events more : List Event) (gate : Gate σ) :
    gate.after settings (events ++ more) = (gate.after settings events).after settings more :=
  List.foldl_append

/-- What each event of a kind keeps holds after any run of such events. -/
theorem after_keeps {settings : Nat → Setting σ} {P : Gate σ → Prop} {allowed : Event → Prop}
    (hkeeps : ∀ gate event, allowed event → P gate → P (gate.handle settings event))
    {events : List Event} (hallowed : ∀ event ∈ events, allowed event) {gate : Gate σ}
    (hgate : P gate) : P (gate.after settings events) := by
  -- by the events in turn, from whatever gate the first of them leaves
  induction events generalizing gate with
  | nil => exact hgate
  | cons event events ih =>
    exact ih (fun other hother => hallowed other (List.mem_cons_of_mem _ hother))
      (hkeeps gate event (hallowed event List.mem_cons_self) hgate)

/-- What every event keeps holds after any run. -/
theorem after_keeps_all {settings : Nat → Setting σ} {P : Gate σ → Prop}
    (hkeeps : ∀ gate event, P gate → P (gate.handle settings event)) (events : List Event)
    {gate : Gate σ} (hgate : P gate) : P (gate.after settings events) := by
  have hallowed : ∀ event ∈ events, (fun _ : Event => True) event := fun _ _ => trivial
  exact after_keeps (fun gate event _ => hkeeps gate event) hallowed hgate

/-! ## §2. Events that do something. -/

/-- An event that changes the gate, and the gate after it. -/
inductive Moves (settings : Nat → Setting σ) (gate : Gate σ) : Event → Gate σ → Prop where
  | turnedAway {attempt : Nat} (hattempt : attempt < gate.phases.length)
      (houtside : gate.phase attempt = .outside) (htaken : gate.taken = true) :
    Moves settings gate (.enter attempt)
      (gate.withPhase attempt (.returned (.error .cycleInProgress) .none))
  | failed {attempt : Nat} {e : Error} (hattempt : attempt < gate.phases.length)
      (houtside : gate.phase attempt = .outside) (hfree : gate.taken = false)
      (hstart : Cycle.start (settings attempt).registry (settings attempt).limits.maxConcurrent
        gate.state = .error e) :
    Moves settings gate (.enter attempt) (gate.withPhase attempt (.returned (.error e) .none))
  | entered {attempt : Nat} {cycle : Cycle} (hattempt : attempt < gate.phases.length)
      (houtside : gate.phase attempt = .outside) (hfree : gate.taken = false)
      (hstart : Cycle.start (settings attempt).registry (settings attempt).limits.maxConcurrent
        gate.state = .ok cycle) :
    Moves settings gate (.enter attempt)
      { gate.withPhase attempt (.inside cycle) with taken := true }
  | worked {attempt position : Nat} {step : Step} {cycle next : Cycle}
      (hattempt : attempt < gate.phases.length) (hinside : gate.phase attempt = .inside cycle)
      (hstep : cycle.step (settings attempt).site (settings attempt).registry gate.state position
        step = some next) :
    Moves settings gate (.work attempt position step) (gate.withPhase attempt (.inside next))
  | expired {attempt : Nat} {cycle : Cycle} (hattempt : attempt < gate.phases.length)
      (hinside : gate.phase attempt = .inside cycle) :
    Moves settings gate (.expire attempt)
      (gate.release attempt
        (.error (.cycleDeadline (settings attempt).limits.deadlineSeconds)) cycle.trace)
  | finished {attempt : Nat} {cycle : Cycle} {result : Except Error Report} {trace : Trace}
      {state : σ} (hattempt : attempt < gate.phases.length)
      (hinside : gate.phase attempt = .inside cycle) (hsettled : cycle.isSettled = true)
      (hcommit : cycle.commit (settings attempt).registry gate.state = (result, trace, state)) :
    Moves settings gate (.finish attempt) ({ gate with state }.release attempt result trace)

/-- A rule tells what its event makes of the gate. -/
theorem Moves.handle_eq {settings : Nat → Setting σ} {gate next : Gate σ} {event : Event}
    (h : gate.Moves settings event next) : gate.handle settings event = next := by
  cases h with
  | turnedAway hattempt houtside htaken =>
    simp only [handle, Event.attempt, hattempt, if_true, enter, houtside, htaken]
  | failed hattempt houtside hfree hstart =>
    simp only [handle, Event.attempt, hattempt, if_true, enter, houtside, hfree, hstart,
      Bool.false_eq_true, if_false]
  | entered hattempt houtside hfree hstart =>
    simp only [handle, Event.attempt, hattempt, if_true, enter, houtside, hfree, hstart,
      Bool.false_eq_true, if_false]
  | worked hattempt hinside hstep =>
    simp only [handle, Event.attempt, hattempt, if_true, work, hinside, hstep]
  | expired hattempt hinside =>
    simp only [handle, Event.attempt, hattempt, if_true, expire, hinside]
  | finished hattempt hinside hsettled hcommit =>
    simp only [handle, Event.attempt, hattempt, if_true, finish, hinside, hsettled, hcommit]

/-- An event does nothing or is one of the rules. -/
theorem handle_eq_or_moves (settings : Nat → Setting σ) (gate : Gate σ) (event : Event) :
    gate.handle settings event = gate ∨
      gate.Moves settings event (gate.handle settings event) := by
  -- The rule alone is enough: it tells what the event makes of the gate.
  suffices h : gate.handle settings event = gate ∨ ∃ next, gate.Moves settings event next by
    rcases h with hsame | ⟨next, hmoves⟩
    · exact .inl hsame
    · exact .inr (hmoves.handle_eq ▸ hmoves)
  -- The case split is that of the operations: the phase first, then what the operation looks at.
  -- All that is left over changes nothing.
  by_cases hattempt : event.attempt < gate.phases.length
  · cases event with
    | enter attempt =>
      cases hphase : gate.phase attempt with
      | outside =>
        cases htaken : gate.taken with
        | true => exact .inr ⟨_, .turnedAway hattempt hphase htaken⟩
        | false =>
          cases hstart : Cycle.start (settings attempt).registry
              (settings attempt).limits.maxConcurrent gate.state with
          | error e => exact .inr ⟨_, .failed hattempt hphase htaken hstart⟩
          | ok cycle => exact .inr ⟨_, .entered hattempt hphase htaken hstart⟩
      | inside cycle => exact .inl (by simp only [handle, enter, hphase, ite_self])
      | returned result trace => exact .inl (by simp only [handle, enter, hphase, ite_self])
    | work attempt position step =>
      cases hphase : gate.phase attempt with
      | outside => exact .inl (by simp only [handle, work, hphase, ite_self])
      | inside cycle =>
        cases hstep : cycle.step (settings attempt).site (settings attempt).registry gate.state
            position step with
        | none => exact .inl (by simp only [handle, work, hphase, hstep, ite_self])
        | some next => exact .inr ⟨_, .worked hattempt hphase hstep⟩
      | returned result trace => exact .inl (by simp only [handle, work, hphase, ite_self])
    | expire attempt =>
      cases hphase : gate.phase attempt with
      | outside => exact .inl (by simp only [handle, expire, hphase, ite_self])
      | inside cycle => exact .inr ⟨_, .expired hattempt hphase⟩
      | returned result trace => exact .inl (by simp only [handle, expire, hphase, ite_self])
    | finish attempt =>
      cases hphase : gate.phase attempt with
      | outside => exact .inl (by simp only [handle, finish, hphase, ite_self])
      | inside cycle =>
        cases hsettled : cycle.isSettled with
        | false =>
          refine .inl ?_
          simp only [handle, finish, hphase, hsettled, Bool.false_eq_true, if_false, ite_self]
        | true => exact .inr ⟨_, .finished hattempt hphase hsettled rfl⟩
      | returned result trace => exact .inl (by simp only [handle, finish, hphase, ite_self])
  · exact .inl (if_neg hattempt)

/-! ## §3. One attempt at a time. -/

/-- An attempt is in the phase that it was put in. -/
theorem phase_withPhase_self {gate : Gate σ} {attempt : Nat} (phase : Phase)
    (hattempt : attempt < gate.phases.length) :
    (gate.withPhase attempt phase).phase attempt = phase := by
  show (gate.phases.set attempt phase)[attempt]?.getD .outside = phase
  rw [List.getElem?_set_self hattempt, Option.getD_some]

/-- The phases of the others are what they were. -/
theorem phase_withPhase_of_ne (gate : Gate σ) {attempt other : Nat} (phase : Phase)
    (hne : other ≠ attempt) : (gate.withPhase attempt phase).phase other = gate.phase other := by
  show (gate.phases.set attempt phase)[other]?.getD .outside = gate.phase other
  rw [List.getElem?_set_ne (Ne.symm hne), Gate.phase]

/-- A phase after a change is the new one or was there before. -/
theorem eq_or_phase_eq {gate : Gate σ} {attempt other : Nat} {phase found : Phase}
    (h : (gate.withPhase attempt phase).phase other = found) :
    other = attempt ∨ gate.phase other = found := by
  rcases Nat.decEq other attempt with hne | heq
  · exact .inr (by rwa [phase_withPhase_of_ne _ _ hne] at h)
  · exact .inl heq

/-- Whoever is past the gate holds it, alone. -/
structure Exclusive (gate : Gate σ) : Prop where
  taken_of_inside : ∀ {attempt cycle}, gate.phase attempt = .inside cycle → gate.taken = true
  eq_of_inside : ∀ {attempt other cycle another}, gate.phase attempt = .inside cycle →
    gate.phase other = .inside another → attempt = other

theorem phase_free (attempts : Nat) (state : σ) (attempt : Nat) :
    (Gate.free attempts state).phase attempt = .outside := by
  show (List.replicate attempts Phase.outside)[attempt]?.getD .outside = .outside
  rw [List.getElem?_replicate]
  split <;> rfl

/-- At a free gate nobody is past it. -/
theorem exclusive_free (attempts : Nat) (state : σ) : (Gate.free attempts state).Exclusive := by
  refine ⟨fun {attempt cycle} h => ?_, fun {attempt other cycle another} h _ => ?_⟩ <;>
    · rw [phase_free] at h
      cases h

/-- While one attempt is past the gate, no other is. -/
theorem Exclusive.phase_ne {gate : Gate σ} (h : gate.Exclusive) {attempt : Nat} {cycle : Cycle}
    (hinside : gate.phase attempt = .inside cycle) {other : Nat} (hne : other ≠ attempt)
    (another : Cycle) : gate.phase other ≠ .inside another :=
  fun hother => hne (h.eq_of_inside hother hinside)

/-- An attempt that is over may give the gate back if nobody else is past
it. -/
theorem Exclusive.out {gate : Gate σ} (h : gate.Exclusive) {attempt : Nat}
    (hattempt : attempt < gate.phases.length) (result : Except Error Report) (trace : Trace)
    (taken : Bool) (state : σ)
    (hkeep : ∀ other cycle, other ≠ attempt → gate.phase other = .inside cycle → taken = true) :
    Exclusive { gate.withPhase attempt (.returned result trace) with taken, state } := by
  -- whoever is past the gate afterwards was so before, and is another attempt
  have hphase : ∀ other cycle,
      (gate.withPhase attempt (.returned result trace)).phase other = .inside cycle →
      other ≠ attempt ∧ gate.phase other = .inside cycle := by
    intro other cycle hother
    have hne : other ≠ attempt := by
      rintro rfl
      rw [phase_withPhase_self _ hattempt] at hother
      cases hother
    exact ⟨hne, by rwa [phase_withPhase_of_ne _ _ hne] at hother⟩
  refine ⟨fun {other cycle} hother => ?_, fun {first second cycle another} hfirst hsecond => ?_⟩
  · obtain ⟨hne, hinside⟩ := hphase other cycle hother
    exact hkeep other cycle hne hinside
  · exact h.eq_of_inside (hphase first cycle hfirst).2 (hphase second another hsecond).2

/-- An attempt may be past the gate if nobody else is. -/
theorem exclusive_inside {gate : Gate σ} {attempt : Nat} (cycle : Cycle) {taken : Bool}
    (htaken : taken = true)
    (hothers : ∀ other another, gate.phase other = .inside another → other = attempt) :
    Exclusive { gate.withPhase attempt (.inside cycle) with taken } := by
  have honly : ∀ other another,
      (gate.withPhase attempt (.inside cycle)).phase other = .inside another →
      other = attempt := by
    intro other another hother
    rcases eq_or_phase_eq hother with heq | hbefore
    · exact heq
    · exact hothers other another hbefore
  exact ⟨fun _ => htaken, fun hfirst hsecond =>
    (honly _ _ hfirst).trans (honly _ _ hsecond).symm⟩

/-- **One event**: whoever passes the gate finds it free, and takes it. -/
theorem Moves.exclusive {settings : Nat → Setting σ} {gate next : Gate σ} {event : Event}
    (hmoves : gate.Moves settings event next) (h : gate.Exclusive) : next.Exclusive := by
  cases hmoves with
  | turnedAway hattempt houtside htaken =>
    exact h.out hattempt _ _ gate.taken gate.state fun _ _ _ hother => h.taken_of_inside hother
  | failed hattempt houtside hfree hstart =>
    exact h.out hattempt _ _ gate.taken gate.state fun _ _ _ hother => h.taken_of_inside hother
  | entered hattempt houtside hfree hstart =>
    -- The gate was free, so nobody was past it.
    refine exclusive_inside _ rfl fun other another hother => ?_
    rw [h.taken_of_inside hother] at hfree
    cases hfree
  | worked hattempt hinside hstep =>
    -- the attempt was past the gate before its step
    exact exclusive_inside _ (h.taken_of_inside hinside) fun other another hother =>
      h.eq_of_inside hother hinside
  | expired hattempt hinside =>
    exact h.out hattempt _ _ false gate.state fun other cycle hne hother =>
      absurd hother (h.phase_ne hinside hne cycle)
  | @finished attempt cycle result trace state hattempt hinside hsettled hcommit =>
    exact h.out hattempt _ _ false state fun other cycle hne hother =>
      absurd hother (h.phase_ne hinside hne cycle)

theorem Exclusive.handle {settings : Nat → Setting σ} {gate : Gate σ} (h : gate.Exclusive)
    (event : Event) : (gate.handle settings event).Exclusive := by
  rcases handle_eq_or_moves settings gate event with hsame | hmoves
  · rwa [hsame]
  · exact hmoves.exclusive h

end Gate

end BoardRelay.Crawl
