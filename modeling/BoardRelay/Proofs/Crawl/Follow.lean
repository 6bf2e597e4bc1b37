/-
  BoardRelay.Proofs.Crawl.Follow
  ────────────────────────────────
  A cycle on a clock as the steps that its errands make.  Each errand makes
  its steps as it makes them alone (`Session.Plays`), whatever the others do
  in between, so every one comes to its end after boundedly many answers; and
  the cycle follows the steps of all in the order of their instants, until it
  is settled or its deadline comes (`play_follows`).  If nobody dies, it has
  then sent all that it owes, or is given up at its deadline (`play_ends`).
-/
import BoardRelay.Proofs.Crawl.Run
import BoardRelay.Proofs.Crawl.Solo

namespace BoardRelay.Crawl

variable {σ : Type}

/-! ## §1. Phases. -/

/-- Putting an attempt in its own phase changes nothing. -/
theorem Gate.withPhase_phase (gate : Gate σ) (number : Nat) :
    gate.withPhase number (gate.phase number) = gate := by
  have hset : gate.phases.set number (gate.phase number) = gate.phases := by
    by_cases hnumber : number < gate.phases.length
    · rw [Gate.phase, List.getElem?_eq_getElem hnumber, Option.getD_some]
      exact List.set_getElem_self hnumber
    · exact List.set_eq_of_length_le (Nat.le_of_not_lt hnumber)
  rw [Gate.withPhase, hset]

namespace Session

/-! ## §2. Steps of a session. -/

/-- Steps in the order of their instants, all before a deadline. -/
structure Timely (limits : Limits) (timed : List (Nat × (Nat × Step))) : Prop where
  ordered : timed.Pairwise fun earlier later => earlier.1 ≤ later.1
  inTime : ∀ entry ∈ timed, entry.1 < limits.deadline

/-- A session whose cycle has come from another by steps with their instants,
none of them later than now. -/
structure Follows (setting : Setting σ) (number : Nat) (state : σ) (first : Cycle)
    (timed : List (Nat × (Nat × Step))) (now : Nat) (session : Session σ) : Prop where
  attempt : number < session.gate.phases.length
  stands : session.gate.state = state
  inside : session.gate.phase number =
    .inside (first.follow setting.site setting.registry state (timed.map (·.2)))
  timely : Timely setting.limits timed
  past : ∀ entry ∈ timed, entry.1 ≤ now
  sorted : session.agenda.entries.Pairwise fun earlier later => earlier.1 ≤ later.1
  coming : ∀ entry ∈ session.agenda.entries, now ≤ entry.1

/-- The answers on the agenda for the errand at a position. -/
def dueAt (position : Nat) (session : Session σ) : List (Nat × (Nat × Step)) :=
  session.agenda.entries.filter fun entry => entry.2.1 = position

/-- A session that made some steps of the errand at one position, which
noted answers for that errand only. -/
structure Worked (setting : Setting σ) (number : Nat) (state : σ) (first : Cycle) (position : Nat)
    (timed : List (Nat × (Nat × Step))) (now : Nat) (session : Session σ)
    (more : List (Nat × (Nat × Step))) (later : Session σ) : Prop where
  follows : later.Follows setting number state first (timed ++ more) now
  place : ∀ entry ∈ more, entry.2.1 = position
  agenda : ∀ other, other ≠ position → later.dueAt other = session.dueAt other

section Steps

variable {setting : Setting σ} {number position now : Nat} {state : σ} {first : Cycle}
  {timed : List (Nat × (Nat × Step))} {session : Session σ}

/-- The errands of a session are those of the cycle that it follows. -/
theorem Follows.errand?_eq (h : session.Follows setting number state first timed now)
    (position : Nat) : session.errand? number position =
      (first.follow setting.site setting.registry state (timed.map (·.2))).errands[position]? := by
  rw [errand?, h.inside]

theorem Follows.worked_nil (h : session.Follows setting number state first timed now)
    (position : Nat) :
    session.Worked setting number state first position timed now [] session where
  follows := by rwa [List.append_nil]
  place := fun _ hentry => (List.not_mem_nil hentry).elim
  agenda := fun _ _ => rfl

/-- Steps of one errand may be followed by more of the same errand. -/
theorem Worked.trans {middle later : Session σ} {more rest : List (Nat × (Nat × Step))}
    (h : session.Worked setting number state first position timed now more middle)
    (hrest : middle.Worked setting number state first position (timed ++ more) now rest later) :
    session.Worked setting number state first position timed now (more ++ rest) later where
  follows := by
    rw [← List.append_assoc]
    exact hrest.follows
  place := fun entry hentry =>
    (List.mem_append.mp hentry).elim (h.place entry) (hrest.place entry)
  agenda := fun other hne => (hrest.agenda other hne).trans (h.agenda other hne)

/-- A step is made now. -/
theorem Follows.work (h : session.Follows setting number state first timed now)
    (hnow : now < setting.limits.deadline) (position : Nat) (step : Step) :
    session.Worked setting number state first position timed now [(now, position, step)]
      (session.work setting number position step) := by
  have hfollow : first.follow setting.site setting.registry state
      ((timed ++ [(now, position, step)]).map (·.2)) =
      ((first.follow setting.site setting.registry state (timed.map (·.2))).step setting.site
        setting.registry state position step).getD
        (first.follow setting.site setting.registry state (timed.map (·.2))) := by
    rw [List.map_append, Cycle.follow_append]
    rfl
  -- whether or not the step can be made, the gate holds the cycle after it
  have hgate : (session.work setting number position step).gate =
      session.gate.withPhase number (.inside (first.follow setting.site setting.registry state
        ((timed ++ [(now, position, step)]).map (·.2)))) := by
    rw [hfollow]
    show session.gate.work _ _ _ _ _ = _
    simp only [Gate.work, h.inside, h.stands]
    cases Cycle.step setting.site setting.registry state position step
        (first.follow setting.site setting.registry state (timed.map (·.2))) with
    | some next => rfl
    | none =>
      rw [Option.getD_none, ← h.inside]
      exact (Gate.withPhase_phase _ _).symm
  refine ⟨⟨?_, ?_, ?_, ⟨?_, ?_⟩, ?_, h.sorted, h.coming⟩, ?_, fun _ _ => rfl⟩
  · rw [hgate]
    exact h.attempt.trans_eq List.length_set.symm
  · rw [hgate]
    exact h.stands
  · rw [hgate, Gate.phase_withPhase_self _ h.attempt]
  · refine List.pairwise_append.mpr ⟨h.timely.ordered, List.pairwise_singleton _ _, ?_⟩
    intro earlier hearlier later hlater
    rw [List.mem_singleton.mp hlater]
    exact h.past earlier hearlier
  · intro entry hentry
    rcases List.mem_append.mp hentry with hold | hnew
    · exact h.timely.inTime entry hold
    · rw [List.mem_singleton.mp hnew]
      exact hnow
  · intro entry hentry
    rcases List.mem_append.mp hentry with hold | hnew
    · exact h.past entry hold
    · rw [List.mem_singleton.mp hnew]
  · intro entry hentry
    rw [List.mem_singleton.mp hentry]

/-- An answer that takes its time is put on the agenda. -/
theorem Follows.note (h : session.Follows setting number state first timed now)
    (delay position : Nat) (step : Step) :
    session.Worked setting number state first position timed now []
      { session with agenda := session.agenda.note (now + delay) (position, step) } where
  follows := by
    rw [List.append_nil]
    refine ⟨h.attempt, h.stands, h.inside, h.timely, h.past,
      Clock.Agenda.pairwise_insertEntry h.sorted, fun entry hentry => ?_⟩
    rcases Clock.Agenda.mem_insertEntry.mp hentry with rfl | hold
    · exact Nat.le_add_right now delay
    · exact h.coming entry hold
  place := fun _ hentry => (List.not_mem_nil hentry).elim
  agenda := fun other hne => Clock.Agenda.filter_insertEntry_of_neg (by simpa using Ne.symm hne) _

end Steps

/-! ## §3. In step with the errand alone. -/

/-- Whether a seat is that of an errand of a cycle. -/
structure Seats (seat : Seat σ) (errand : Errand) (cycle : Cycle) : Prop where
  cursor : cycle.cursor = seat.cursor
  width : cycle.width = seat.width
  errand : cycle.errands[seat.position]? = some errand

/-- A session in which the errand of a seat has come as far as it has alone. -/
structure Plays (seat : Seat σ) (errand : Errand) (timed : List (Nat × (Nat × Step)))
    (session : Session σ) (solo : Solo) : Prop where
  way : seat.follow (ownSteps seat.position (timed.map (·.2))) errand = (solo.errand, solo.trace)
  agenda : session.dueAt seat.position = solo.agenda.entries

/-- A session that made steps of the errand of a seat, the same that the errand
makes alone. -/
def InStep (seat : Seat σ) (errand : Errand) (number : Nat) (first : Cycle)
    (timed : List (Nat × (Nat × Step))) (now : Nat) (session later : Session σ) (solo : Solo) :
    Prop :=
  ∃ more, session.Worked seat.setting number seat.state first seat.position timed now more later ∧
    later.Plays seat errand (timed ++ more) solo

section InStep

variable {seat : Seat σ} {errand : Errand} {number now : Nat} {first : Cycle}
  {timed : List (Nat × (Nat × Step))} {session : Session σ} {solo : Solo}

theorem Follows.inStep (h : session.Follows seat.setting number seat.state first timed now)
    (hplays : session.Plays seat errand timed solo) :
    session.InStep seat errand number first timed now session solo :=
  ⟨[], h.worked_nil seat.position, by rwa [List.append_nil]⟩

/-- **In step, one part after the other**: what follows a part in step may be
any part that stays in step from there. -/
theorem InStep.bind {middle last : Session σ} {further : Solo}
    (h : session.InStep seat errand number first timed now middle solo)
    (hlater : ∀ more, middle.Follows seat.setting number seat.state first more now →
      middle.Plays seat errand more solo →
      middle.InStep seat errand number first more now last further) :
    session.InStep seat errand number first timed now last further := by
  obtain ⟨more, hworked, hplays⟩ := h
  obtain ⟨rest, hrest, hend⟩ := hlater _ hworked.follows hplays
  exact ⟨more ++ rest, hworked.trans hrest, by rwa [← List.append_assoc]⟩

/-- An errand that has come as far as alone is found there. -/
theorem Follows.errand?_of_plays
    (h : session.Follows seat.setting number seat.state first timed now)
    (hseats : Seats seat errand first) (hplays : session.Plays seat errand timed solo) :
    session.errand? number seat.position = some solo.errand := by
  rw [h.errand?_eq, Cycle.getElem?_follow _ _ _ hseats.errand, hseats.cursor, hseats.width]
  exact congrArg some (congrArg Prod.fst hplays.way)

/-- A step made in the session is the step made alone. -/
theorem Follows.workInStep (h : session.Follows seat.setting number seat.state first timed now)
    (hplays : session.Plays seat errand timed solo) (hnow : now < seat.setting.limits.deadline)
    (step : Step) :
    session.InStep seat errand number first timed now
      (session.work seat.setting number seat.position step) (seat.work step solo) := by
  refine ⟨_, h.work hnow seat.position step, ?_, hplays.agenda⟩
  have hway := hplays.way
  unfold Seat.follow at hway
  rw [List.map_append, ownSteps_append, List.map_singleton, ownSteps_cons_self, Seat.follow,
    Errand.follow_append, hway]
  rfl

/-- So is an answer, at once or after a delay. -/
theorem Follows.answerInStep (h : session.Follows seat.setting number seat.state first timed now)
    (hplays : session.Plays seat errand timed solo) (hnow : now < seat.setting.limits.deadline)
    (delay : Nat) (step : Step) :
    session.InStep seat errand number first timed now
      (session.answerAfter seat.setting now delay number seat.position step)
      (seat.answerAfter now delay step solo) := by
  rw [Session.answerAfter, Seat.answerAfter]
  -- an answer without a delay comes at once; any other goes on both agendas, in the same place
  -- among this errand's
  split
  · exact h.workInStep hplays hnow step
  · refine ⟨[], h.note delay seat.position step, ?_, ?_⟩
    · rw [List.append_nil]
      exact hplays.way
    · have hagenda := hplays.agenda
      unfold dueAt at hagenda ⊢
      rw [Clock.Agenda.note, Clock.Agenda.filter_insertEntry_of_pos (by simp) h.sorted, hagenda]
      rfl

theorem Follows.beginInStep (h : session.Follows seat.setting number seat.state first timed 0)
    (hseats : Seats seat errand first) (hplays : session.Plays seat errand timed solo)
    (hnow : 0 < seat.setting.limits.deadline) :
    session.InStep seat errand number first timed 0
      (session.begin seat.setting number seat.position) (seat.begin solo) := by
  rw [Session.begin, h.errand?_of_plays hseats hplays]
  exact (h.workInStep hplays hnow .list).bind fun more hmore hasked =>
    hmore.answerInStep hasked hnow _ .listed

/-- **Going on in step**: whatever needs no waiting is done as the errand does
it alone. -/
theorem Follows.proceedInStep (h : session.Follows seat.setting number seat.state first timed now)
    (hseats : Seats seat errand first) (hplays : session.Plays seat errand timed solo)
    (hnow : now < seat.setting.limits.deadline) (count : Nat) :
    session.InStep seat errand number first timed now
      (session.proceed seat.setting now number seat.position count)
      (seat.proceed now count solo) := by
  -- both sides look at the same errand, so they split in the same cases
  induction count generalizing session timed solo with
  | zero => exact h.inStep hplays
  | succ count ih =>
    rw [Session.proceed, Seat.proceed, h.errand?_of_plays hseats hplays]
    dsimp only
    cases hstage : solo.errand.stage with
    | looking found missing users =>
      cases missing with
      | nil => exact h.inStep hplays
      | cons next missing =>
        exact (h.workInStep hplays hnow _).bind fun more hmore hlooked => ih hmore hlooked
    | fetching queued running tally =>
      cases queued with
      | nil => exact h.inStep hplays
      | cons job queued =>
        dsimp only
        rw [Seat.width]
        split
        · have hasked := (h.workInStep hplays hnow .fetch).bind fun more hmore hasked =>
            hmore.answerInStep hasked hnow (seat.setting.pace.posts solo.errand.board job.thread)
              (.fetched job.number)
          exact hasked.bind fun more hmore hback => ih hmore hback
        · exact h.inStep hplays
    | _ => exact h.inStep hplays

theorem Follows.proceedAllInStep
    (h : session.Follows seat.setting number seat.state first timed now)
    (hseats : Seats seat errand first) (hplays : session.Plays seat errand timed solo)
    (hnow : now < seat.setting.limits.deadline) :
    session.InStep seat errand number first timed now
      (session.proceedAll seat.setting now number seat.position) (seat.proceedAll now solo) := by
  rw [Session.proceedAll, Seat.proceedAll, h.errand?_of_plays hseats hplays]
  exact h.proceedInStep hseats hplays hnow _

end InStep

/-- The others go on as if nothing had happened. -/
theorem Worked.plays {setting : Setting σ} {number position now : Nat} {state : σ} {first : Cycle}
    {timed more : List (Nat × (Nat × Step))} {session later : Session σ}
    (h : session.Worked setting number state first position timed now more later)
    {seat : Seat σ} {errand : Errand} {solo : Solo} (hne : seat.position ≠ position)
    (hplays : session.Plays seat errand timed solo) :
    later.Plays seat errand (timed ++ more) solo := by
  refine ⟨?_, (h.agenda seat.position hne).trans hplays.agenda⟩
  -- none of the steps made is the other errand's
  have hown : ownSteps seat.position (more.map (·.2)) = [] := by
    rw [ownSteps, List.map_eq_nil_iff, List.filter_eq_nil_iff]
    intro entry hentry
    obtain ⟨made, hmade, rfl⟩ := List.mem_map.mp hentry
    simpa [h.place made hmade] using hne.symm
  rw [List.map_append, ownSteps_append, hown, List.append_nil]
  exact hplays.way

/-! ## §4. The end of a session. -/

/-- What a cycle that followed some steps on a clock has come to: it is
settled and was ended, or it was given up at the deadline. -/
inductive Comes (setting : Setting σ) (number : Nat) (state : σ) (last : Cycle) (elapsed : Nat)
    (gate : Gate σ) : Prop where
  | ended (hsettled : last.isSettled = true)
      (hphase : gate.phase number = .returned (last.commit setting.registry state).1
        (last.commit setting.registry state).2.1)
  | givenUp (hlate : elapsed = setting.limits.deadline)
      (hphase : gate.phase number =
        .returned (.error (.cycleDeadline setting.limits.deadlineSeconds)) last.trace)

section Ends

variable {setting : Setting σ} {number now : Nat} {state : σ} {first : Cycle}
  {timed : List (Nat × (Nat × Step))} {session : Session σ}

/-- The next answer on the agenda comes in time. -/
theorem Follows.next (h : session.Follows setting number state first timed now)
    {due position : Nat} {step : Step} {entries : List (Nat × (Nat × Step))}
    (hentries : session.agenda.entries = (due, position, step) :: entries) :
    now ≤ due ∧
      Follows setting number state first timed due { session with agenda := ⟨entries⟩ } := by
  have hsorted := h.sorted
  rw [hentries] at hsorted
  obtain ⟨hfirst, hrest⟩ := List.pairwise_cons.mp hsorted
  have hle : now ≤ due := h.coming _ (hentries ▸ List.mem_cons_self)
  exact ⟨hle, h.attempt, h.stands, h.inside, h.timely,
    fun entry hentry => Nat.le_trans (h.past entry hentry) hle, hrest, hfirst⟩

/-- A session that follows a settled cycle ends with its report. -/
theorem Follows.finish (h : session.Follows setting number state first timed now)
    (hsettled : (first.follow setting.site setting.registry state
      (timed.map (·.2))).isSettled = true) :
    (session.gate.finish setting.registry number).phase number =
      .returned ((first.follow setting.site setting.registry state
          (timed.map (·.2))).commit setting.registry state).1
        ((first.follow setting.site setting.registry state
          (timed.map (·.2))).commit setting.registry state).2.1 := by
  simp only [Gate.finish, h.inside, hsettled, if_true, h.stands]
  exact Gate.phase_withPhase_self _ h.attempt

/-- At its deadline it ends with what the cycle has asked and sent so far. -/
theorem Follows.expire (h : session.Follows setting number state first timed now) :
    (session.gate.expire setting.limits number).phase number =
      .returned (.error (.cycleDeadline setting.limits.deadlineSeconds))
        (first.follow setting.site setting.registry state (timed.map (·.2))).trace := by
  simp only [Gate.expire, h.inside]
  exact Gate.phase_withPhase_self _ h.attempt

end Ends

/-! ## §5. All errands together. -/

end Session

/-- The seat of the errand at a position of a cycle. -/
def Cycle.seat (setting : Setting σ) (state : σ) (position : Nat) (cycle : Cycle) : Seat σ :=
  ⟨setting, state, cycle.cursor, position⟩

theorem Cycle.seats {setting : Setting σ} {cycle : Cycle}
    (hwidth : cycle.width = max 1 setting.limits.maxConcurrent) (state : σ) {position : Nat}
    {errand : Errand} (herrand : cycle.errands[position]? = some errand) :
    Session.Seats (cycle.seat setting state position) errand cycle :=
  ⟨rfl, hwidth, herrand⟩

namespace Session

/-- A session in which each errand has come as far as it has alone. -/
structure Ensemble (setting : Setting σ) (number : Nat) (state : σ) (first : Cycle)
    (timed : List (Nat × (Nat × Step))) (now : Nat) (session : Session σ) (solos : Nat → Solo) :
    Prop where
  follows : session.Follows setting number state first timed now
  plays {position : Nat} {errand : Errand} : first.errands[position]? = some errand →
    session.Plays (first.seat setting state position) errand timed (solos position)
  placed : ∀ entry ∈ session.agenda.entries, entry.2.1 < first.errands.length

section Ensemble

variable {setting : Setting σ} {number position now : Nat} {state : σ} {first : Cycle}
  {timed : List (Nat × (Nat × Step))} {session : Session σ} {solos : Nat → Solo}

/-- One errand moves in step, and the others stay where they are. -/
theorem Ensemble.move (h : session.Ensemble setting number state first timed now solos)
    {errand : Errand} (herrand : first.errands[position]? = some errand) {later : Session σ}
    {solo : Solo} (hstep : session.InStep (first.seat setting state position) errand number first
      timed now later solo) :
    ∃ more, later.Ensemble setting number state first more now
      (Function.update solos position solo) := by
  obtain ⟨more, hworked, hplays⟩ := hstep
  refine ⟨timed ++ more, hworked.follows, fun {other owner} hother => ?_, fun entry hentry => ?_⟩
  · by_cases heq : other = position
    · subst heq
      cases herrand.symm.trans hother
      rw [Function.update_self]
      exact hplays
    · rw [Function.update_of_ne heq]
      exact hworked.plays heq (h.plays hother)
  · by_cases heq : entry.2.1 = position
    · rw [heq]
      exact (List.getElem?_eq_some_iff.mp herrand).1
    · -- what is on the agenda for the others was there before
      have hdue : entry ∈ later.dueAt entry.2.1 :=
        List.mem_filter.mpr ⟨hentry, decide_eq_true rfl⟩
      rw [hworked.agenda entry.2.1 heq] at hdue
      exact h.placed entry (List.mem_of_mem_filter hdue)

/-- The first answer on the agenda comes back, and its errand goes on as it
does alone. -/
theorem Ensemble.answered (h : session.Ensemble setting number state first timed now solos)
    (hwidth : first.width = max 1 setting.limits.maxConcurrent) {errand : Errand}
    (herrand : first.errands[position]? = some errand) {due : Nat} {step : Step}
    {entries : List (Nat × (Nat × Step))}
    (hentries : session.agenda.entries = (due, position, step) :: entries)
    (hdue : due < setting.limits.deadline) :
    (∃ rest, (solos position).agenda.entries = (due, position, step) :: rest) ∧
      ∃ more, Ensemble setting number state first more due
        (({ session with agenda := ⟨entries⟩ }.work setting number position step).proceedAll
          setting due number position)
        (Function.update solos position
          ((first.seat setting state position).pull (solos position))) := by
  have hagenda := (h.plays herrand).agenda
  unfold dueAt at hagenda
  rw [hentries, List.filter_cons_of_pos (by simp [Cycle.seat])] at hagenda
  refine ⟨⟨_, hagenda.symm⟩, ?_⟩
  let seat := first.seat setting state position
  let before : Session σ := { session with agenda := ⟨entries⟩ }
  let solo : Solo := { solos position with agenda := ⟨before.dueAt position⟩ }
  have hfollows : before.Follows setting number state first timed due :=
    (h.follows.next hentries).2
  have hplays : before.Plays seat errand timed solo := ⟨(h.plays herrand).way, rfl⟩
  -- taking the answer off the agenda leaves what is due to the others
  have hothers : before.Ensemble setting number state first timed due
      (Function.update solos position solo) := by
    refine ⟨hfollows, fun {other owner} hother => ?_, fun entry hentry => ?_⟩
    · by_cases heq : other = position
      · subst heq
        cases herrand.symm.trans hother
        rw [Function.update_self]
        exact hplays
      · rw [Function.update_of_ne heq]
        refine ⟨(h.plays hother).way, ?_⟩
        rw [← (h.plays hother).agenda]
        unfold dueAt
        rw [hentries, List.filter_cons_of_neg fun hsame => heq (of_decide_eq_true hsame).symm]
    · exact h.placed entry (hentries ▸ List.mem_cons_of_mem _ hentry)
  have hpull : seat.pull (solos position) = seat.proceedAll due (seat.work step solo) := by
    rw [Seat.pull, Clock.Agenda.next?, ← hagenda]
    rfl
  have hinStep := (hfollows.workInStep hplays hdue step).bind
    fun more hmore hworked => hmore.proceedAllInStep (first.seats hwidth state herrand) hworked hdue
  rw [← hpull] at hinStep
  obtain ⟨more, hmore⟩ := hothers.move herrand hinStep
  rw [Function.update_idem] at hmore
  exact ⟨more, hmore⟩

end Ensemble

section Ensemble

variable {setting : Setting σ} {number now : Nat} {state : σ} {first : Cycle}
  {timed : List (Nat × (Nat × Step))} {session : Session σ}

/-- Whether all errands of a cycle wait. -/
def AllWait (setting : Setting σ) (state : σ) (first : Cycle) (solos : Nat → Solo) : Prop :=
  ∀ position < first.errands.length, (solos position).Waits (first.seat setting state position)

/-- How many answers are still to come for all errands of a cycle. -/
def pendingAll (site : Site) (first : Cycle) (solos : Nat → Solo) : Nat :=
  ((List.range first.errands.length).map fun position => (solos position).pending site).sum

/-- The next answer to one errand leaves all waiting, for fewer answers. -/
theorem AllWait.pull {position : Nat} {solos : Nat → Solo} (h : AllWait setting state first solos)
    (hposition : position < first.errands.length) {entry : Nat × (Nat × Step)}
    {entries : List (Nat × (Nat × Step))}
    (hentries : (solos position).agenda.entries = entry :: entries) :
    let pulled := Function.update solos position
      ((first.seat setting state position).pull (solos position))
    AllWait setting state first pulled ∧
      pendingAll setting.site first pulled < pendingAll setting.site first solos := by
  intro pulled
  obtain ⟨hwaits, hfewer⟩ := (h position hposition).pull hentries
  have hself : pulled position = (first.seat setting state position).pull (solos position) :=
    Function.update_self position _ solos
  have hothers : ∀ other, other ≠ position → pulled other = solos other :=
    fun other hne => Function.update_of_ne hne _ solos
  -- one errand has fewer answers to wait for, all others as many
  refine ⟨fun other hother => ?_, List.sum_lt_sum _ _ (fun other _ => ?_)
    ⟨position, List.mem_range.mpr hposition, ?_⟩⟩
  · by_cases heq : other = position
    · subst heq
      rwa [hself]
    · rw [hothers other heq]
      exact h other hother
  · by_cases heq : other = position
    · subst heq
      rw [hself]
      exact Nat.le_of_lt hfewer
    · rw [hothers other heq]
  · rw [hself]
    exact hfewer

/-- After an answer to one errand, all have come as far as they do alone, that
one after one answer more. -/
theorem exists_pull_eq (setting : Setting σ) (state : σ) (first : Cycle) (solos : Nat → Solo)
    (position other answers : Nat) :
    ∃ more, (first.seat setting state other).pull^[answers] (Function.update solos position
        ((first.seat setting state position).pull (solos position)) other) =
      (first.seat setting state other).pull^[more] (solos other) := by
  by_cases heq : other = position
  · subst heq
    rw [Function.update_self]
    exact ⟨answers + 1, (Function.iterate_succ_apply _ _ _).symm⟩
  · rw [Function.update_of_ne heq]
    exact ⟨answers, rfl⟩

/-- With nothing on the agenda, all errands are settled. -/
theorem Ensemble.isSettled {solos : Nat → Solo}
    (h : session.Ensemble setting number state first timed now solos)
    (hwidth : first.width = max 1 setting.limits.maxConcurrent)
    (hwaits : AllWait setting state first solos) (hnone : session.agenda.entries = []) :
    (first.follow setting.site setting.registry state (timed.map (·.2))).isSettled = true := by
  rw [Cycle.isSettled, List.all_eq_true]
  intro last hlast
  obtain ⟨position, hposition⟩ := List.getElem?_of_mem hlast
  have hlength := (List.getElem?_eq_some_iff.mp hposition).1
  rw [Cycle.length_follow] at hlength
  have herrand := List.getElem?_eq_getElem hlength
  have hplays := h.plays herrand
  -- with nothing due to it, the errand alone waits for nothing
  have hagenda := hplays.agenda
  rw [dueAt, hnone, List.filter_nil] at hagenda
  have hsame := h.follows.errand?_of_plays (first.seats hwidth state herrand) hplays
  rw [h.follows.errand?_eq] at hsame
  cases hposition.symm.trans hsame
  exact (hwaits position hlength).isSettled hagenda.symm

/-- With a bound on the answers that are still to come, a cycle ends, and each
errand has come as far as it does alone after some answers. -/
theorem Ensemble.run {solos : Nat → Solo}
    (h : session.Ensemble setting number state first timed now solos)
    (hwidth : first.width = max 1 setting.limits.maxConcurrent)
    (hwaits : AllWait setting state first solos)
    {count : Nat} (hcount : pendingAll setting.site first solos < count) :
    ∃ course, Timely setting.limits course ∧ Comes setting number state
        (first.follow setting.site setting.registry state (course.map (·.2)))
        (session.run setting number count now).1 (session.run setting number count now).2.gate ∧
      ∀ position errand, first.errands[position]? = some errand → ∃ answers,
        (first.seat setting state position).follow (ownSteps position (course.map (·.2))) errand =
          (((first.seat setting state position).pull^[answers] (solos position)).errand,
            ((first.seat setting state position).pull^[answers] (solos position)).trace) := by
  -- on the bound, which every answer that comes lowers
  induction count generalizing session timed now solos with
  | zero => exact absurd hcount (Nat.not_lt_zero _)
  | succ count ih =>
    have hstay : ∀ position errand, first.errands[position]? = some errand → ∃ answers,
        (first.seat setting state position).follow (ownSteps position (timed.map (·.2))) errand =
          (((first.seat setting state position).pull^[answers] (solos position)).errand,
            ((first.seat setting state position).pull^[answers] (solos position)).trace) :=
      fun position errand herrand => ⟨0, (h.plays herrand).way⟩
    rw [Session.run, h.follows.inside]
    dsimp only
    split
    · next hsettled =>
      exact ⟨timed, h.follows.timely, .ended hsettled (h.follows.finish hsettled), hstay⟩
    · -- an errand waits, so an answer is to come, in time or after the deadline
      next hopen =>
      cases hentries : session.agenda.entries with
      | nil => exact absurd (h.isSettled hwidth hwaits hentries) hopen
      | cons entry entries =>
        obtain ⟨due, position, step⟩ := entry
        simp only [Clock.Agenda.next?, hentries]
        split
        · exact ⟨timed, h.follows.timely, .givenUp rfl h.follows.expire, hstay⟩
        · next hearly =>
          have hposition : position < first.errands.length :=
            h.placed _ (hentries ▸ List.mem_cons_self)
          obtain ⟨⟨rest, hrest⟩, more, hmore⟩ := h.answered hwidth
            (List.getElem?_eq_getElem hposition) hentries (Nat.lt_of_not_le hearly)
          obtain ⟨hrested, hless⟩ := hwaits.pull hposition hrest
          obtain ⟨course, htimely, hcomes, hways⟩ :=
            ih hmore hrested (Nat.lt_of_lt_of_le hless (Nat.le_of_lt_succ hcount))
          refine ⟨course, htimely, hcomes, fun other owner hother => ?_⟩
          obtain ⟨answers, hway⟩ := hways other owner hother
          obtain ⟨all, hall⟩ := exists_pull_eq setting state first solos position other answers
          rw [hall] at hway
          exact ⟨all, hway⟩

/-- One errand after the other is begun at the first instant. -/
theorem Ensemble.beginAll {solos : Nat → Solo}
    (h : session.Ensemble setting number state first timed 0 solos)
    (hwidth : first.width = max 1 setting.limits.maxConcurrent)
    (hnow : 0 < setting.limits.deadline)
    (hfresh : ∀ position errand, first.errands[position]? = some errand →
      solos position = ⟨errand, Clock.Agenda.empty, .none⟩)
    {count : Nat} (hcount : count ≤ first.errands.length) :
    ∃ course begun, Ensemble setting number state first course 0
        ((List.range count).foldl (fun session position =>
          (session.begin setting number position).proceedAll setting 0 number position) session)
        begun ∧
      ∀ position errand, first.errands[position]? = some errand → begun position =
        if position < count then (first.seat setting state position).opened errand
        else ⟨errand, Clock.Agenda.empty, .none⟩ := by
  -- the errands begun so far have opened, and the rest still wait
  induction count with
  | zero => exact ⟨timed, solos, h, hfresh⟩
  | succ count ih =>
    obtain ⟨course, begun, hbegun, hsolos⟩ := ih (Nat.le_of_succ_le hcount)
    have herrand := List.getElem?_eq_getElem hcount
    have hseats := first.seats hwidth state herrand
    have hinStep := (hbegun.follows.beginInStep hseats (hbegun.plays herrand) hnow).bind
      fun more hmore hasked => hmore.proceedAllInStep hseats hasked hnow
    obtain ⟨more, hmore⟩ := hbegun.move herrand hinStep
    rw [List.range_succ, List.foldl_append, List.foldl_cons, List.foldl_nil]
    refine ⟨more, _, hmore, fun position errand hposition => ?_⟩
    by_cases heq : position = count
    · subst heq
      cases herrand.symm.trans hposition
      rw [Function.update_self, if_pos (Nat.lt_succ_self _), hsolos _ _ herrand,
        if_neg (Nat.lt_irrefl _)]
      rfl
    · rw [Function.update_of_ne heq, hsolos position errand hposition]
      have hiff : position < count ↔ position < count + 1 := by omega
      simp only [hiff]

end Ensemble

end Session

/-! ## §6. A single attempt. -/

/-- A session whose only attempt has just come past the gate. -/
def Session.entered (state : σ) (cycle : Cycle) : Session σ :=
  ⟨⟨true, [.inside cycle], state⟩, Clock.Agenda.empty⟩

/-- A session that has just begun follows no steps yet. -/
theorem Session.follows_entered (setting : Setting σ) (state : σ) (cycle : Cycle) :
    (entered state cycle).Follows setting 0 state cycle [] 0 :=
  ⟨Nat.one_pos, rfl, rfl, ⟨.nil, fun _ h => (List.not_mem_nil h).elim⟩,
    fun _ h => (List.not_mem_nil h).elim, .nil, fun _ h => (List.not_mem_nil h).elim⟩

/-- The bound that a cycle begins with is enough. -/
theorem Session.pendingAll_lt {site : Site} {cycle : Cycle} {solos : Nat → Solo}
    (hwaiting : ∀ errand ∈ cycle.errands, errand.stage = .waiting)
    (hpending : ∀ position (hposition : position < cycle.errands.length),
      (solos position).pending site ≤ cycle.errands[position].unanswered site) :
    pendingAll site cycle solos <
      cycle.errands.foldl (fun sum errand => sum + answers site errand) 1 := by
  -- the sum over errands and the one over their positions have the same terms
  have hall : cycle.errands.map (·.unanswered site) =
      (List.range cycle.errands.length).map fun position =>
        (cycle.errands[position]?.map (·.unanswered site)).getD 0 := by
    refine List.ext_getElem (by simp) fun position hposition _ => ?_
    rw [List.length_map] at hposition
    simp [hposition]
  rw [foldl_answers site hwaiting, Nat.add_comm, hall]
  refine Nat.lt_succ_of_le (List.sum_le_sum fun position hposition => ?_)
  have hposition := List.mem_range.mp hposition
  rw [List.getElem?_eq_getElem hposition, Option.map_some, Option.getD_some]
  exact hpending position hposition

/-- Whether steps of a cycle take each errand as far as it comes alone, after
some answers. -/
def Cycle.EachAlone (setting : Setting σ) (state : σ) (steps : List (Nat × Step)) (cycle : Cycle) :
    Prop :=
  ∀ position errand, cycle.errands[position]? = some errand → ∃ answers,
    (cycle.seat setting state position).follow (ownSteps position steps) errand =
      (((cycle.seat setting state position).alone errand answers).errand,
        ((cycle.seat setting state position).alone errand answers).trace)

/-- A cycle that has just begun, with some time, comes to its end, each of its
errands as it does alone. -/
theorem Session.runAll_alone {setting : Setting σ} (state : σ) {cycle : Cycle}
    (hwidth : cycle.width = max 1 setting.limits.maxConcurrent)
    (hwaiting : ∀ errand ∈ cycle.errands, errand.stage = .waiting)
    (hnow : 0 < setting.limits.deadline) :
    ∃ timed, Session.Timely setting.limits timed ∧
      Session.Comes setting 0 state
        (cycle.follow setting.site setting.registry state (timed.map (·.2)))
        (Session.runAll setting 0 (.entered state cycle)).1
        (Session.runAll setting 0 (.entered state cycle)).2.gate ∧
      cycle.EachAlone setting state (timed.map (·.2)) := by
  let fresh (position : Nat) : Solo :=
    ⟨cycle.errands[position]?.getD ⟨"", [], .dead⟩, Clock.Agenda.empty, .none⟩
  have hfresh : ∀ position errand, cycle.errands[position]? = some errand →
      fresh position = ⟨errand, Clock.Agenda.empty, .none⟩ := by
    intro position errand herrand
    show Solo.mk (Option.getD _ _) _ _ = _
    rw [herrand, Option.getD_some]
  have hensemble : (Session.entered state cycle).Ensemble setting 0 state cycle [] 0 fresh := by
    refine ⟨Session.follows_entered setting state cycle, fun {position errand} herrand => ?_,
      fun _ h => (List.not_mem_nil h).elim⟩
    rw [hfresh position errand herrand]
    exact ⟨rfl, rfl⟩
  obtain ⟨begun, solos, hbegun, hsolos⟩ := hensemble.beginAll hwidth hnow hfresh (Nat.le_refl _)
  have hopened : ∀ position (hposition : position < cycle.errands.length),
      solos position = (cycle.seat setting state position).opened cycle.errands[position] := by
    intro position hposition
    rw [hsolos position _ (List.getElem?_eq_getElem hposition), if_pos hposition]
  -- every errand has opened, and waits for no more answers than it began with
  have hwaits : ∀ position (hposition : position < cycle.errands.length),
      (solos position).Waits (cycle.seat setting state position) ∧
        (solos position).pending setting.site ≤
          cycle.errands[position].unanswered setting.site := by
    intro position hposition
    rw [hopened position hposition]
    exact Solo.waits_opened (cycle.seat setting state position)
      (hwaiting _ (List.getElem_mem hposition))
  obtain ⟨course, htimely, hcomes, hways⟩ :=
    hbegun.run hwidth (fun position hposition => (hwaits position hposition).1)
      (Session.pendingAll_lt hwaiting fun position hposition => (hwaits position hposition).2)
  refine ⟨course, htimely, hcomes, fun position errand herrand => ?_⟩
  obtain ⟨answers, hway⟩ := hways position errand herrand
  obtain ⟨hposition, rfl⟩ := List.getElem?_eq_some_iff.mp herrand
  rw [hopened position hposition] at hway
  exact ⟨answers, hway⟩

/-- A single attempt follows steps of its errands to its end, and with some
time each errand comes as far as it does alone. -/
theorem play_follows {setting : Setting σ} {state : σ} {cycle : Cycle}
    (hstart : Cycle.start setting.registry setting.limits.maxConcurrent state = .ok cycle) :
    ∃ timed, Session.Timely setting.limits timed ∧
      Session.Comes setting 0 state
        (cycle.follow setting.site setting.registry state (timed.map (·.2)))
        (play setting 1 state).1 (play setting 1 state).2 ∧
      (0 < setting.limits.deadline → cycle.EachAlone setting state (timed.map (·.2))) := by
  have hfollows := Session.follows_entered setting state cycle
  have hentered : (Gate.free 1 state).enter setting.registry setting.limits 0 =
      (Session.entered state cycle).gate := by
    have houtside : (Gate.free 1 state).phase 0 = .outside := rfl
    have hfree : (Gate.free 1 state).taken = false := rfl
    have hbegun : Cycle.start setting.registry setting.limits.maxConcurrent
        (Gate.free 1 state).state = .ok cycle := hstart
    simp only [Gate.enter, houtside, hfree, hbegun]
    rfl
  have hin : (Session.entered state cycle).gate.phase 0 = .inside cycle := rfl
  have hover : ∀ {gate : Gate σ} {result trace}, gate.phase 0 = .returned result trace →
      [0].find? gate.isInside = none := by
    intro gate result trace hphase
    refine List.find?_cons_of_neg ?_
    rw [Gate.isInside, hphase]
    exact Bool.false_ne_true
  have hwaiting : ∀ errand ∈ cycle.errands, errand.stage = .waiting :=
    fun _ herrand => Cycle.waiting_of_start hstart herrand
  have hwidth := Cycle.width_of_start hstart
  rw [play]
  simp only [List.range_one, List.foldl_cons, List.foldl_nil, Session.enter, hentered]
  rw [hin]
  dsimp only
  -- A cycle without boards is over at once; one without time is at its deadline.
  by_cases hsettled : cycle.isSettled = true
  · have hended := hfollows.finish hsettled
    rw [if_pos hsettled, hover hended]
    refine ⟨[], hfollows.timely, .ended hsettled hended, fun _ position errand herrand => ?_⟩
    have hmem := List.mem_of_getElem? herrand
    have hover := List.all_eq_true.mp hsettled errand hmem
    rw [Errand.isSettled, hwaiting errand hmem] at hover
    cases hover
  · rw [if_neg hsettled]
    by_cases hnotime : setting.limits.deadline = 0
    · rw [if_pos hnotime, hover hfollows.expire]
      exact ⟨[], hfollows.timely, .givenUp hnotime.symm hfollows.expire,
        fun hsome => absurd hnotime (Nat.ne_of_gt hsome)⟩
    · have hisInside : (Session.entered state cycle).gate.isInside 0 = true := rfl
      rw [if_neg hnotime, List.find?_cons_of_pos hisInside]
      obtain ⟨timed, htimely, hcomes, hways⟩ :=
        Session.runAll_alone state hwidth hwaiting (Nat.pos_of_ne_zero hnotime)
      exact ⟨timed, htimely, hcomes, fun _ => hways⟩

/-! ## §7. What is owed. -/

/-- How an attempt at a cycle may end on a clock: having sent what is due,
or at the deadline. -/
def Session.Ends (setting : Setting σ) (number : Nat) (due : List Send) (elapsed : Nat)
    (gate : Gate σ) : Prop :=
  ∃ result trace, gate.phase number = .returned result trace ∧
    ((trace.sends.Perm due ∧ ∀ report, result = .ok report → report.sends.Perm due) ∨
    (elapsed = setting.limits.deadline ∧
      result = .error (.cycleDeadline setting.limits.deadlineSeconds)))

/-- A single attempt at a cycle, played on a clock, ends with everything sent
that its registry calls for, or at the deadline. -/
theorem play_ends {setting : Setting σ} {state : σ} {store : Store}
    (hsite : setting.site.Lives) (hreads : setting.registry.Reads state store) :
    Session.Ends setting 0 (owed setting.site store (setting.registry.answers state))
      (play setting 1 state).1 (play setting 1 state).2 := by
  let cycle := Cycle.opening store setting.limits.maxConcurrent
  let known := setting.registry.known state
  obtain ⟨timed, -, hcomes, -⟩ := play_follows (Cycle.start_eq hreads setting.limits.maxConcurrent)
  -- what is accounted for and promised is kept step by step
  have hlast : ∀ steps, (cycle.follow setting.site setting.registry state steps).Accounted
      setting.site known ∧ (cycle.follow setting.site setting.registry state steps).promised
        setting.site known = cycle.promised setting.site known :=
    Cycle.follow_of_step
      (P := fun last => last.Accounted setting.site known ∧
        last.promised setting.site known = cycle.promised setting.site known)
      (fun hstep h => ⟨h.1.step hsite hstep, (Cycle.promised_step hstep).trans h.2⟩)
      ⟨Cycle.accounted_opening _ _ _ _, rfl⟩
  obtain ⟨haccounted, hpromised⟩ := hlast (timed.map (·.2))
  -- the deadline comes first, or the cycle is settled and its accounts are even
  cases hcomes with
  | givenUp hlate hphase => exact ⟨_, _, hphase, .inr ⟨hlate, rfl⟩⟩
  | ended hsettled hphase =>
    have hsent : (cycle.follow setting.site setting.registry state
        (timed.map (·.2))).trace.sends.Perm
          (owed setting.site store (setting.registry.answers state)) :=
      (haccounted.sends_perm hsettled).trans
        ((List.Perm.of_eq hpromised).trans (Cycle.promised_opening hreads _ _))
    obtain ⟨htrace, hreport⟩ := Cycle.commit_sends setting.registry state
      (cycle.follow setting.site setting.registry state (timed.map (·.2)))
    refine ⟨_, _, hphase, .inl ⟨(List.Perm.of_eq htrace).trans hsent, fun report hresult => ?_⟩⟩
    obtain ⟨after, rfl⟩ := hreport report hresult
    exact (haccounted.report_sends hsettled after).trans hsent

end BoardRelay.Crawl
