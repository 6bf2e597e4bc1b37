/-
  BoardRelay.Proofs.Crawl.Landing
  ────────────────────────────────
  All deliveries of a report are waited for, and those that did not die are
  counted, in whatever order they land (`Landing.completed_after`).
-/
import BoardRelay.Crawl.Landing
import BoardRelay.Proofs.Lists

namespace BoardRelay.Crawl

namespace Landing

/-! ## §1. Steps. -/

/-- The step that takes a landing to another. -/
inductive Moves : Landing → Step → Landing → Prop where
  | land {waiting : List Flight} {position : Nat} {outcome : Outcome Unit}
      (hflight : waiting[position]? = some ⟨outcome, false⟩) (completed : Nat) :
    Moves ⟨waiting, completed⟩ (.land position) ⟨waiting.set position ⟨outcome, true⟩, completed⟩
  | next {outcome : Outcome Unit} (houtcome : outcome ≠ .collapse) (waiting : List Flight)
      (completed : Nat) :
    Moves ⟨⟨outcome, true⟩ :: waiting, completed⟩ .next ⟨waiting, completed + 1⟩
  | died (waiting : List Flight) (completed : Nat) :
    Moves ⟨⟨.collapse, true⟩ :: waiting, completed⟩ .next ⟨waiting, completed⟩

/-- The rules are the steps of a landing. -/
theorem step_eq_some_iff {landing next : Landing} {step : Step} :
    landing.step step = some next ↔ landing.Moves step next := by
  obtain ⟨waiting, completed⟩ := landing
  constructor
  · intro h
    cases step with
    | land position =>
      cases hflight : waiting[position]? with
      | none => simp [Landing.step, hflight] at h
      | some flight =>
        obtain ⟨outcome, landed⟩ := flight
        cases landed with
        | true => simp [Landing.step, hflight] at h
        | false =>
          simp only [Landing.step, hflight, Bool.false_eq_true, if_false, Option.some.injEq] at h
          exact h ▸ .land hflight completed
    | next =>
      cases waiting with
      | nil => cases h
      | cons flight waiting =>
        obtain ⟨outcome, landed⟩ := flight
        cases landed with
        | false => cases h
        | true =>
          cases outcome with
          | answer value =>
            have houtcome : Outcome.answer value ≠ .collapse := nofun
            exact Option.some.inj h ▸ .next houtcome waiting completed
          | failure =>
            have houtcome : (Outcome.failure : Outcome Unit) ≠ .collapse := nofun
            exact Option.some.inj h ▸ .next houtcome waiting completed
          | collapse => exact Option.some.inj h ▸ .died waiting completed
  · rintro (⟨hflight, completed⟩ | ⟨houtcome, waiting, completed⟩ | ⟨waiting, completed⟩)
    · simp [Landing.step, hflight]
    · next outcome =>
      cases outcome with
      | collapse => exact absurd rfl houtcome
      | _ => rfl
    · rfl

/-! ## §2. The count. -/

/-- How many deliveries were completed or will be. -/
def total (landing : Landing) : Nat :=
  landing.completed + landing.waiting.countP fun flight => flight.outcome ≠ .collapse

/-- A bound on the steps still to be made: a delivery has to land and to be
waited for. -/
def todo (landing : Landing) : Nat :=
  (landing.waiting.map fun flight => if flight.landed then 1 else 2).sum

/-- **What a step keeps**: a delivery that was waited for is counted as
completed, or died and was never going to be. -/
theorem Moves.total_eq {landing next : Landing} {step : Step} (h : landing.Moves step next) :
    next.total = landing.total := by
  cases h with
  | @land waiting position outcome hflight completed =>
    have hcount := countP_set (fun flight : Flight => flight.outcome ≠ .collapse) hflight
      ⟨outcome, true⟩
    simp only [total]
    dsimp only at hcount
    omega
  -- a flight that has not collapsed leaves the line and is counted as completed
  | @next outcome houtcome waiting completed =>
    simp only [total]
    rw [List.countP_cons_of_pos (by simpa using houtcome)]
    omega
  | died waiting completed =>
    simp only [total]
    rw [List.countP_cons_of_neg (by simp)]

/-- Each step leaves less to wait for. -/
theorem Moves.todo_lt {landing next : Landing} {step : Step} (h : landing.Moves step next) :
    next.todo < landing.todo := by
  cases h with
  | @land waiting position outcome hflight completed =>
    let steps (flight : Flight) : Nat := if flight.landed then 1 else 2
    have hless : steps ⟨outcome, true⟩ + 1 ≤ steps ⟨outcome, false⟩ := Nat.le_refl 2
    exact sum_map_set_le hflight hless
  | next houtcome waiting completed => exact Nat.lt_add_of_pos_left Nat.one_pos
  | died waiting completed => exact Nat.lt_add_of_pos_left Nat.one_pos

/-- As long as a delivery is waited for, it lands or has landed. -/
theorem exists_moves {landing : Landing} (h : landing.waiting ≠ []) :
    ∃ step next, landing.Moves step next := by
  obtain ⟨waiting, completed⟩ := landing
  cases waiting with
  | nil => exact absurd rfl h
  | cons flight waiting =>
    obtain ⟨outcome, landed⟩ := flight
    cases landed with
    -- the first in line has not landed, so it can
    | false => exact ⟨.land 0, _, .land rfl completed⟩
    | true =>
      by_cases houtcome : outcome = .collapse
      · subst houtcome
        exact ⟨.next, _, .died waiting completed⟩
      · exact ⟨.next, _, .next houtcome waiting completed⟩

/-! ## §3. All deliveries of a report. -/

theorem after_append (steps more : List Step) (landing : Landing) :
    landing.after (steps ++ more) = (landing.after steps).after more :=
  List.foldl_append

/-- So the count is the same at the end of any run as at its beginning. -/
theorem total_after (steps : List Step) (landing : Landing) :
    (landing.after steps).total = landing.total := by
  induction steps generalizing landing with
  | nil => rfl
  | cons step steps ih =>
    refine (ih _).trans ?_
    dsimp only
    cases hstep : landing.step step with
    | none => rfl
    | some next => exact (step_eq_some_iff.mp hstep).total_eq

/-- However far it has come, the waiting can come to its end. -/
theorem exists_after_eq_nil (landing : Landing) :
    ∃ steps, (landing.after steps).waiting = [] := by
  -- by what is left to do, which every step lessens
  induction htodo : landing.todo using Nat.strongRecOn generalizing landing with
  | ind count ih =>
    by_cases hnone : landing.waiting = []
    · exact ⟨[], hnone⟩
    · obtain ⟨step, next, hmoves⟩ := exists_moves hnone
      obtain ⟨steps, hsteps⟩ := ih next.todo (htodo ▸ hmoves.todo_lt) next rfl
      refine ⟨step :: steps, ?_⟩
      rwa [after, List.foldl_cons, step_eq_some_iff.mpr hmoves]

/-- At the beginning all deliveries are to come, those that will die left out. -/
theorem total_ofReport (fate : Nat → Send → Outcome Unit) (report : Report) :
    (ofReport fate report).total + (report.sends.mapIdx fate).count .collapse =
      report.sends.length := by
  have hlength := List.length_eq_countP_add_countP (l := report.sends.mapIdx fate)
    fun outcome : Outcome Unit => outcome == .collapse
  rw [List.length_mapIdx] at hlength
  simp only [total, ofReport, List.countP_map, List.count, hlength]
  simp [Function.comp_def, Nat.add_comm]

/-- Once nothing is waited for any more, all deliveries are counted but those
that died. -/
theorem completed_after {fate : Nat → Send → Outcome Unit} {report : Report} {steps : List Step}
    (hnone : ((ofReport fate report).after steps).waiting = []) :
    ((ofReport fate report).after steps).completed + (report.sends.mapIdx fate).count .collapse =
      report.sends.length := by
  have htotal := total_after steps (ofReport fate report)
  rw [total, hnone, List.countP_nil, Nat.add_zero] at htotal
  rw [htotal, total_ofReport]

/-- Waiting leaves nothing. -/
theorem waiting_wait (landing : Landing) : landing.wait.waiting = [] := by
  obtain ⟨waiting, completed⟩ := landing
  -- by the deliveries in their order, each landed and then taken from the front
  induction waiting generalizing completed with
  | nil => rfl
  | cons flight waiting ih =>
    obtain ⟨outcome, landed⟩ := flight
    -- the first has landed by the time that it is waited for
    have hlanded : after [.land 0] ⟨⟨outcome, landed⟩ :: waiting, completed⟩ =
        ⟨⟨outcome, true⟩ :: waiting, completed⟩ := by
      cases landed <;> rfl
    have hnext : ∃ now, after [.next] ⟨⟨outcome, true⟩ :: waiting, completed⟩ = ⟨waiting, now⟩ := by
      cases outcome <;> exact ⟨_, rfl⟩
    obtain ⟨now, hnow⟩ := hnext
    have hfirst : after ([.land 0] ++ [.next]) ⟨⟨outcome, landed⟩ :: waiting, completed⟩ =
        ⟨waiting, now⟩ := by
      rw [after_append, hlanded, hnow]
    rw [wait, List.flatMap_cons, after_append]
    exact (congrArg (fun landing => (after _ landing).waiting) hfirst).trans (ih now)

end Landing

end BoardRelay.Crawl
