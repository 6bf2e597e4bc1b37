/-
  BoardRelay.Proofs.Crawl.Dispatch
  ────────────────────────────────
  Which post each file that is sent belongs to.  A send does not tell; the
  log of a run does, and says nothing else than the traces of the attempts
  do (`Gate.sends_after`).
-/
import BoardRelay.Proofs.Crawl.Cycle
import BoardRelay.Proofs.Crawl.Run

namespace BoardRelay.Crawl

variable {σ : Type}

/-! ## §1. Dispatches of an errand. -/

/-- A file on its way, with the post that has it. -/
structure Dispatch where
  board : String
  thread : String
  post : Post
  send : Send
  deriving Repr, DecidableEq

/-- What a fetched thread has to be sent, post by post. -/
def dispatchesOf (resource : String → String) (cursor : UInt64) (board : String) (job : Job)
    (posts : Posts) : List Dispatch :=
  (newPosts cursor posts).flatMap fun post =>
    (post.files.filterMap (sendOf? resource job)).map fun send => ⟨board, job.thread, post, send⟩

/-- Dispatches are the sends of a thread, with the post that each is of. -/
theorem map_send_dispatchesOf (resource : String → String) (cursor : UInt64) (board : String)
    (job : Job) (posts : Posts) :
    (dispatchesOf resource cursor board job posts).map (·.send) =
      sends resource cursor job posts := by
  rw [dispatchesOf, sends, List.map_flatMap]
  refine List.flatMap_congr fun post _ => ?_
  rw [List.map_map]
  exact List.map_id _

/-- What a step of an errand dispatches. -/
def Errand.dispatches (site : Site) (cursor : UInt64) (errand : Errand) : Step → List Dispatch
  | .fetched number =>
    match errand.stage with
    | .fetching _ running _ =>
      match running.find? fun job => job.number = number with
      | some job =>
        match site.posts errand.board job.thread with
        | .answer posts => dispatchesOf site.resource cursor errand.board job posts
        | _ => []
      | none => []
    | _ => []
  | _ => []

/-- **A step dispatches what its trace sends.** -/
theorem Errand.Moves.map_send_dispatches {site : Site} {registry : Registry σ} {state : σ}
    {cursor : UInt64} {width : Nat} {errand next : Errand} {step : Step} {trace : Trace}
    (h : errand.Moves site registry state cursor width step next trace) :
    (errand.dispatches site cursor step).map (·.send) = trace.sends := by
  cases h with
  | list => rfl
  | listed => rfl
  | lookup => rfl
  | fetch => rfl
  -- an answered fetch is the only step that sends
  | @fetched board subscriptions queued running tally number job hjob =>
    simp only [dispatches, hjob]
    cases site.posts board job.thread with
    | answer posts => exact map_send_dispatchesOf _ _ _ _ _
    | failure => rfl
    | collapse => rfl

/-- An errand dispatches something only in a step that it can make. -/
theorem Errand.exists_moves_of_mem_dispatches {site : Site} (registry : Registry σ) (state : σ)
    {cursor : UInt64} (width : Nat) {errand : Errand} {step : Step} {dispatch : Dispatch}
    (h : dispatch ∈ errand.dispatches site cursor step) :
    ∃ next trace, errand.Moves site registry state cursor width step next trace := by
  obtain ⟨board, subscriptions, stage⟩ := errand
  -- only a thread that comes back brings files
  cases step with
  | fetched number =>
    cases stage with
    | fetching queued running tally =>
      simp only [dispatches] at h
      split at h
      · next job hjob => exact ⟨_, _, .fetched board subscriptions queued tally hjob⟩
      · cases h
    | waiting => cases h
    | listing => cases h
    | looking found missing users => cases h
    | reported tally => cases h
    | dead => cases h
  | list => cases h
  | listed => cases h
  | lookup position => cases h
  | fetch => cases h

/-! ## §2. The log of a run. -/

/-- What an attempt has sent. -/
def Phase.sends : Phase → List Send
  | .outside => []
  | .inside cycle => cycle.trace.sends
  | .returned _ trace => trace.sends

namespace Gate

/-- What an event dispatches, with the attempt that it concerns. -/
def dispatches (settings : Nat → Setting σ) (gate : Gate σ) : Event → List (Nat × Dispatch)
  | .work attempt position step =>
    match gate.phase attempt with
    | .inside cycle =>
      match cycle.errands[position]? with
      | some errand =>
        (errand.dispatches (settings attempt).site cycle.cursor step).map fun dispatch =>
          (attempt, dispatch)
      | none => []
    | _ => []
  | _ => []

/-- What a run dispatches, in order. -/
def log (settings : Nat → Setting σ) : List Event → Gate σ → List (Nat × Dispatch)
  | [], _ => []
  | event :: events, gate =>
    gate.dispatches settings event ++ log settings events (gate.handle settings event)

theorem lt_length_of_inside {gate : Gate σ} {attempt : Nat} {cycle : Cycle}
    (hinside : gate.phase attempt = .inside cycle) : attempt < gate.phases.length := by
  rw [phase] at hinside
  cases hphase : gate.phases[attempt]? with
  | none => rw [hphase] at hinside; cases hinside
  | some found => exact (List.getElem?_eq_some_iff.mp hphase).1

/-- Something is dispatched only by an event that does something: a step of
an errand whose cycle is past the gate. -/
theorem mem_dispatches {settings : Nat → Setting σ} {gate : Gate σ} {event : Event}
    {attempt : Nat} {dispatch : Dispatch}
    (h : (attempt, dispatch) ∈ gate.dispatches settings event) :
    ∃ position step cycle errand after trace, event = .work attempt position step ∧
      gate.phase attempt = .inside cycle ∧ cycle.errands[position]? = some errand ∧
      errand.Moves (settings attempt).site (settings attempt).registry gate.state cycle.cursor
        cycle.width step after trace ∧
      dispatch ∈ errand.dispatches (settings attempt).site cycle.cursor step := by
  cases event with
  | work other position step =>
    simp only [dispatches] at h
    split at h
    · next cycle hinside =>
      split at h
      · next errand herrand =>
        obtain ⟨found, hfound, heq⟩ := List.mem_map.mp h
        obtain ⟨rfl, rfl⟩ := Prod.mk.inj heq
        -- whatever is dispatched, the errand can make the step
        obtain ⟨after, trace, hmoves⟩ := Errand.exists_moves_of_mem_dispatches
          (settings other).registry gate.state cycle.width hfound
        exact ⟨position, step, cycle, errand, after, trace, rfl, hinside, herrand, hmoves, hfound⟩
      · cases h
    · cases h
  | enter other => cases h
  | expire other => cases h
  | finish other => cases h

/-- An event that does nothing dispatches nothing. -/
theorem dispatches_eq_nil {settings : Nat → Setting σ} {gate : Gate σ} {event : Event}
    (hidle : ∀ next, ¬ gate.Moves settings event next) : gate.dispatches settings event = [] := by
  refine List.eq_nil_iff_forall_not_mem.mpr fun (attempt, dispatch) hmem => ?_
  obtain ⟨position, step, cycle, errand, after, trace, rfl, hinside, herrand, hmoves, -⟩ :=
    mem_dispatches hmem
  exact hidle _ (.worked (lt_length_of_inside hinside) hinside
    (Cycle.step_eq_some_iff.mpr ⟨errand, after, trace, herrand, hmoves, rfl⟩))

theorem handle_eq_self {settings : Nat → Setting σ} {gate : Gate σ} {event : Event}
    (hidle : ∀ next, ¬ gate.Moves settings event next) : gate.handle settings event = gate :=
  (handle_eq_or_moves settings gate event).resolve_right (hidle _)

/-- The sends among dispatches that are an attempt's. -/
def sendsOf (attempt : Nat) (log : List (Nat × Dispatch)) : List Send :=
  (log.filter fun entry => entry.1 = attempt).map fun entry => entry.2.send

theorem sendsOf_append (attempt : Nat) (log more : List (Nat × Dispatch)) :
    sendsOf attempt (log ++ more) = sendsOf attempt log ++ sendsOf attempt more := by
  rw [sendsOf, List.filter_append, List.map_append]
  rfl

/-- The phase of one attempt changes together with what it has sent. -/
theorem sends_withPhase {gate : Gate σ} {attempt : Nat} {phase : Phase} (sent : List Send)
    (hattempt : attempt < gate.phases.length)
    (hsent : phase.sends = (gate.phase attempt).sends ++ sent) (other : Nat) :
    ((gate.withPhase attempt phase).phase other).sends =
      (gate.phase other).sends ++ if attempt = other then sent else [] := by
  by_cases heq : attempt = other
  · subst heq
    rw [phase_withPhase_self _ hattempt, hsent, if_pos rfl]
  · rw [phase_withPhase_of_ne _ _ (Ne.symm heq), if_neg heq, List.append_nil]

/-- What is dispatched in one step is all one attempt's. -/
theorem sendsOf_map (attempt other : Nat) (dispatches : List Dispatch) :
    sendsOf attempt (dispatches.map fun dispatch => (other, dispatch)) =
      if other = attempt then dispatches.map (·.send) else [] := by
  rw [sendsOf, List.filter_map, List.map_map]
  show List.map _ (List.filter (fun _ => decide (other = attempt)) dispatches) = _
  split
  · next heq =>
    rw [List.filter_eq_self.mpr fun dispatch _ => decide_eq_true heq]
    rfl
  · next hne =>
    rw [List.filter_eq_nil_iff.mpr fun dispatch _ => by simpa using hne]
    rfl

/-- **One event**: every attempt has sent what it had, and what the event
dispatches for it. -/
theorem sends_handle (settings : Nat → Setting σ) (gate : Gate σ) (event : Event)
    (attempt : Nat) : ((gate.handle settings event).phase attempt).sends =
      (gate.phase attempt).sends ++ sendsOf attempt (gate.dispatches settings event) := by
  by_cases hmoves : ∃ next, gate.Moves settings event next
  · obtain ⟨next, hmoves⟩ := hmoves
    rw [hmoves.handle_eq]
    -- Of all events only the steps of errands send anything.
    have hnone : ∀ other : Nat, (gate.phase attempt).sends ++ (if other = attempt then [] else []) =
        (gate.phase attempt).sends ++ [] := fun other => by rw [ite_self]
    cases hmoves with
    | turnedAway hattempt houtside htaken =>
      exact (sends_withPhase [] hattempt (by rw [houtside]; rfl) attempt).trans (hnone _)
    | failed hattempt houtside hfree hstart =>
      exact (sends_withPhase [] hattempt (by rw [houtside]; rfl) attempt).trans (hnone _)
    | @entered other cycle hattempt houtside hfree hstart =>
      refine (sends_withPhase [] hattempt ?_ attempt).trans (hnone _)
      show cycle.trace.sends = _
      rw [houtside, Cycle.trace_of_start hstart]
      rfl
    | @worked other position step cycle after hattempt hinside hstep =>
      obtain ⟨errand, following, trace, herrand, hmade, rfl⟩ := Cycle.step_eq_some_iff.mp hstep
      refine (sends_withPhase trace.sends hattempt (by rw [hinside]; rfl) attempt).trans ?_
      simp only [dispatches, hinside, herrand]
      rw [sendsOf_map, hmade.map_send_dispatches]
    | expired hattempt hinside =>
      refine (sends_withPhase [] hattempt ?_ attempt).trans (hnone _)
      rw [hinside]
      exact (List.append_nil _).symm
    | @finished other cycle result trace state hattempt hinside hsettled hcommit =>
      refine (sends_withPhase [] hattempt ?_ attempt).trans (hnone _)
      have hsends := (Cycle.commit_sends (settings other).registry gate.state cycle).1
      rw [hcommit] at hsends
      rw [hinside]
      exact hsends.trans (List.append_nil _).symm
  · -- What changes nothing dispatches nothing either.
    have hidle := not_exists.mp hmoves
    rw [handle_eq_self hidle, dispatches_eq_nil hidle]
    exact (List.append_nil _).symm

/-- The log of a run has what the traces of the attempts have, in their
order. -/
theorem sends_after (settings : Nat → Setting σ) (events : List Event) (gate : Gate σ)
    (attempt : Nat) : ((gate.after settings events).phase attempt).sends =
      (gate.phase attempt).sends ++ sendsOf attempt (gate.log settings events) := by
  -- the sends of one event stand before those of the rest, as in the log
  induction events generalizing gate with
  | nil => exact (List.append_nil _).symm
  | cons event events ih =>
    rw [after_cons, ih, sends_handle, log, sendsOf_append, List.append_assoc]

end Gate

end BoardRelay.Crawl
