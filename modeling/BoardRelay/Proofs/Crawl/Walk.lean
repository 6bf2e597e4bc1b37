/-
  BoardRelay.Proofs.Crawl.Walk
  ────────────────────────────────
  A single attempt at a free gate as the steps of its cycle.  However its
  events come, the attempt is outside, or past the gate with a cycle that has
  gone some steps, or it has come to the end of its cycle or has been given
  up on the way (`Gate.walks_after`).
-/
import BoardRelay.Proofs.Crawl.Run
import BoardRelay.Proofs.Crawl.Share

namespace BoardRelay.Crawl

variable {σ : Type}

namespace Gate

/-! ## §1. The way of an attempt. -/

/-- A gate with one attempt whose cycle goes by steps, and ends when they have
settled it, or also before if it may come late. -/
inductive Walks (setting : Setting σ) (state : σ) (first : Cycle) (late : Bool) :
    Gate σ → Prop where
  | outside : Walks setting state first late ⟨false, [.outside], state⟩
  | inside (steps : List (Nat × Step)) : Walks setting state first late
      ⟨true, [.inside (first.follow setting.site setting.registry state steps)], state⟩
  | returned {steps : List (Nat × Step)} {result : Except Error Report} {trace : Trace} {last : σ}
      (hsettled : (first.follow setting.site setting.registry state steps).isSettled = true)
      (hcommit : (first.follow setting.site setting.registry state steps).commit setting.registry
        state = (result, trace, last)) :
    Walks setting state first late ⟨false, [.returned result trace], last⟩
  | givenUp (steps : List (Nat × Step)) (hlate : late = true) : Walks setting state first late
      ⟨false, [.returned (.error (.cycleDeadline setting.limits.deadlineSeconds))
        (first.follow setting.site setting.registry state steps).trace], state⟩

section Walks

variable {setting : Setting σ} {state : σ} {first : Cycle} {late : Bool} {gate next : Gate σ}
  {event : Event}

theorem Walks.eq_outside (h : gate.Walks setting state first late)
    (houtside : gate.phase 0 = .outside) : gate = ⟨false, [.outside], state⟩ := by
  cases h with
  | outside => rfl
  | inside => cases houtside
  | returned => cases houtside
  | givenUp => cases houtside

/-- An attempt that is inside has taken steps of its own cycle only, and left
the state alone so far. -/
theorem Walks.eq_inside (h : gate.Walks setting state first late) {cycle : Cycle}
    (hinside : gate.phase 0 = .inside cycle) :
    ∃ steps, cycle = first.follow setting.site setting.registry state steps ∧
      gate = ⟨true, [.inside cycle], state⟩ := by
  cases h with
  | outside => cases hinside
  | inside steps => cases hinside; exact ⟨steps, rfl, rfl⟩
  | returned => cases hinside
  | givenUp => cases hinside

/-- Each event is the beginning of the cycle, a step of it or its end. -/
theorem Moves.walks
    (hstart : Cycle.start setting.registry setting.limits.maxConcurrent state = .ok first)
    (hmoves : gate.Moves (fun _ => setting) event next) (h : gate.Walks setting state first late)
    (hevent : event.isExpiry = true → late = true) : next.Walks setting state first late := by
  -- the gate has one attempt, the one that the event concerns
  have hzero : ∀ {attempt}, attempt < gate.phases.length → attempt = 0 := by
    cases h <;> exact fun hattempt => Nat.lt_one_iff.mp hattempt
  cases hmoves with
  | turnedAway hattempt houtside htaken =>
    cases hzero hattempt
    cases h.eq_outside houtside
    cases htaken
  | failed hattempt houtside hfree hfailed =>
    cases hzero hattempt
    cases h.eq_outside houtside
    cases hstart.symm.trans hfailed
  | entered hattempt houtside hfree hbegun =>
    cases hzero hattempt
    cases h.eq_outside houtside
    cases hstart.symm.trans hbegun
    exact .inside []
  | @worked attempt position step cycle after hattempt hinside hstep =>
    cases hzero hattempt
    obtain ⟨steps, rfl, rfl⟩ := h.eq_inside hinside
    have hfollow : first.follow setting.site setting.registry state
        (steps ++ [(position, step)]) = after := by
      rw [Cycle.follow_append, Cycle.follow_cons_some hstep]
      rfl
    exact hfollow ▸ .inside (steps ++ [(position, step)])
  | expired hattempt hinside =>
    cases hzero hattempt
    obtain ⟨steps, rfl, rfl⟩ := h.eq_inside hinside
    exact .givenUp steps (hevent rfl)
  | finished hattempt hinside hsettled hcommit =>
    cases hzero hattempt
    obtain ⟨steps, rfl, rfl⟩ := h.eq_inside hinside
    exact .returned hsettled hcommit

theorem walks_after
    (hstart : Cycle.start setting.registry setting.limits.maxConcurrent state = .ok first)
    (late : Bool) {events : List Event}
    (hevents : ∀ event ∈ events, event.isExpiry = true → late = true) :
    ((Gate.free 1 state).after (fun _ => setting) events).Walks setting state first late := by
  -- the invariant holds at the open gate, and each move keeps it
  refine after_keeps (fun gate event hevent hgate => ?_) hevents .outside
  rcases handle_eq_or_moves (fun _ => setting) gate event with hsame | hmoves
  · rwa [hsame]
  · exact hmoves.walks hstart hgate hevent

end Walks

end Gate

end BoardRelay.Crawl
