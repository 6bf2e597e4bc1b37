/-
  BoardRelay.Proofs.Crawl.Schedule
  ────────────────────────────────
  One attempt at a free gate, under every schedule that stays inside the
  deadline.  The account of the cycle holds from its beginning to its end
  (`Gate.Balanced`), every event that does something leaves less to do, and
  something can be done until the attempt is over.
-/
import BoardRelay.Proofs.Crawl.Follow
import BoardRelay.Proofs.Crawl.Script

namespace BoardRelay.Crawl

variable {σ : Type}

namespace Gate

/-! ## §1. The account of an attempt. -/

/-- A gate with one attempt that will have sent, or has sent, what is
due. -/
inductive Balanced (site : Site) (registry : Registry σ) (state : σ) (due : List Send) :
    Gate σ → Prop where
  | outside : Balanced site registry state due ⟨false, [.outside], state⟩
  | inside {cycle : Cycle} (haccounted : cycle.Accounted site (registry.known state))
      (hpromised : (cycle.promised site (registry.known state)).Perm due) :
    Balanced site registry state due ⟨true, [.inside cycle], state⟩
  | returned (last : σ) {result : Except Error Report} {trace : Trace}
      (hsends : trace.sends.Perm due)
      (hreport : ∀ report, result = .ok report → report.sends.Perm due) :
    Balanced site registry state due ⟨false, [.returned result trace], last⟩

/-- A bound on the events that still do something. -/
def todo (setting : Setting σ) (store : Store) (gate : Gate σ) : Nat :=
  match gate.phase 0 with
  | .outside => (Cycle.opening store setting.limits.maxConcurrent).todo setting.site + 2
  | .inside cycle => cycle.todo setting.site + 1
  | .returned _ _ => 0

/-- An event inside the deadline keeps the account and leaves less to do. -/
theorem Moves.balanced {setting : Setting σ} {state : σ} {store : Store} {due : List Send}
    {gate next : Gate σ} {event : Event} (hmoves : gate.Moves (fun _ => setting) event next)
    (hsite : setting.site.Lives) (hreads : setting.registry.Reads state store)
    (hdue : due.Perm (owed setting.site store (setting.registry.answers state)))
    (h : gate.Balanced setting.site setting.registry state due)
    (hevent : event.isExpiry = false) :
    next.Balanced setting.site setting.registry state due ∧
      next.todo setting store < gate.todo setting store := by
  -- The gate has one attempt, so that the rule and the account speak of the same.
  have hzero : ∀ {attempt} {phase : Phase} {taken : Bool} {last : σ},
      attempt < (Gate.mk taken [phase] last).phases.length → attempt = 0 :=
    fun hattempt => Nat.lt_one_iff.mp hattempt
  cases hmoves with
  | turnedAway hattempt houtside htaken =>
    cases h with
    | outside => cases htaken
    | inside => cases hzero hattempt; cases houtside
    | returned => cases htaken
  | failed hattempt houtside hfree hstart =>
    cases h with
    | outside => rw [Cycle.start_eq hreads] at hstart; cases hstart
    | inside => cases hfree
    | returned => cases hzero hattempt; cases houtside
  | @entered attempt cycle hattempt houtside hfree hstart =>
    cases h with
    | outside =>
      cases hzero hattempt
      cases (Cycle.start_eq hreads _).symm.trans hstart
      refine ⟨.inside (Cycle.accounted_opening _ _ _ _) ?_, Nat.lt_succ_self _⟩
      exact (Cycle.promised_opening hreads setting.site _).trans hdue.symm
    | inside => cases hfree
    | returned => cases hzero hattempt; cases houtside
  | @worked attempt position step cycle after hattempt hinside hstep =>
    cases h with
    | outside => cases hzero hattempt; cases hinside
    | inside haccounted hpromised =>
      cases hzero hattempt
      cases hinside
      refine ⟨.inside (haccounted.step hsite hstep) ?_, Nat.succ_lt_succ (Cycle.todo_step hstep)⟩
      rwa [Cycle.promised_step hstep]
    | returned => cases hzero hattempt; cases hinside
  | expired => cases hevent
  | @finished attempt cycle result trace last hattempt hinside hsettled hcommit =>
    cases h with
    | outside => cases hzero hattempt; cases hinside
    | inside haccounted hpromised =>
      cases hzero hattempt
      cases hinside
      have hsent := (haccounted.sends_perm hsettled).trans hpromised
      obtain ⟨htrace, hreport⟩ := Cycle.commit_sends setting.registry state cycle
      rw [hcommit] at htrace hreport
      refine ⟨.returned last ?_ fun report hresult => ?_, Nat.succ_pos _⟩
      · rwa [htrace]
      · obtain ⟨after, rfl⟩ := hreport report hresult
        exact (haccounted.report_sends hsettled after).trans hsent
    | returned => cases hzero hattempt; cases hinside

/-- Until the attempt is over, some event inside the deadline does
something. -/
theorem Balanced.exists_event {setting : Setting σ} {state : σ} {store : Store}
    {due : List Send} (hreads : setting.registry.Reads state store) {gate : Gate σ}
    (h : gate.Balanced setting.site setting.registry state due) :
    (∃ result trace, gate.phase 0 = .returned result trace) ∨
      ∃ event next, event.isExpiry = false ∧ gate.Moves (fun _ => setting) event next := by
  cases h with
  | outside =>
    exact .inr ⟨.enter 0, _, rfl, .entered Nat.one_pos rfl rfl (Cycle.start_eq hreads _)⟩
  | @inside cycle haccounted hpromised =>
    right
    -- a settled cycle can finish, and in any other some errand has a step to take
    by_cases hsettled : cycle.isSettled
    · exact ⟨.finish 0, _, rfl, .finished Nat.one_pos rfl hsettled rfl⟩
    · obtain ⟨position, step, next, hstep⟩ := haccounted.exists_step hsettled
      exact ⟨.work 0 position step, _, rfl, .worked Nat.one_pos rfl hstep⟩
  | returned last hsends hreport => exact .inl ⟨_, _, rfl⟩

/-! ## §2. Runs. -/

/-- A run in which each event does something. -/
def Stirring (settings : Nat → Setting σ) : List Event → Gate σ → Prop
  | [], _ => True
  | event :: events, gate =>
    gate.handle settings event ≠ gate ∧ Stirring settings events (gate.handle settings event)

/-- **Every run without an expiry keeps the balance**: what is sent and what is
still promised together are what was owed, in whatever order the steps come. -/
theorem Balanced.after {setting : Setting σ} {state : σ} {store : Store} {due : List Send}
    {gate : Gate σ} (h : gate.Balanced setting.site setting.registry state due)
    (hsite : setting.site.Lives) (hreads : setting.registry.Reads state store)
    (hdue : due.Perm (owed setting.site store (setting.registry.answers state)))
    {events : List Event} (hevents : ∀ event ∈ events, event.isExpiry = false) :
    (gate.after (fun _ => setting) events).Balanced setting.site setting.registry state due := by
  -- the balance is kept by each move at the gate; an event that moves nothing has nothing to keep
  refine after_keeps (fun gate event hevent hgate => ?_) hevents h
  rcases handle_eq_or_moves (fun _ => setting) gate event with hsame | hmoves
  · rwa [hsame]
  · exact (hmoves.balanced hsite hreads hdue hgate hevent).1

/-- A run inside the deadline in which each event does something is no longer
than what there is to do. -/
theorem Balanced.length_le {setting : Setting σ} {state : σ} {store : Store} {due : List Send}
    {gate : Gate σ} (h : gate.Balanced setting.site setting.registry state due)
    (hsite : setting.site.Lives) (hreads : setting.registry.Reads state store)
    (hdue : due.Perm (owed setting.site store (setting.registry.answers state)))
    {events : List Event} (hevents : ∀ event ∈ events, event.isExpiry = false)
    (hstirring : gate.Stirring (fun _ => setting) events) :
    events.length ≤ gate.todo setting store := by
  induction events generalizing gate with
  | nil => exact Nat.zero_le _
  | cons event events ih =>
    obtain ⟨hchange, hrest⟩ := hstirring
    -- an event that changes the gate is one of the rules, and uses something up
    have hmoves := (handle_eq_or_moves (fun _ => setting) gate event).resolve_left hchange
    obtain ⟨hnext, hless⟩ :=
      hmoves.balanced hsite hreads hdue h (hevents event List.mem_cons_self)
    have hle := ih hnext (fun other hother => hevents other (List.mem_cons_of_mem _ hother)) hrest
    rw [List.length_cons]
    omega

/-- From wherever it is, the attempt can come to its end inside the
deadline. -/
theorem Balanced.exists_return {setting : Setting σ} {state : σ} {store : Store}
    {due : List Send} {gate : Gate σ}
    (h : gate.Balanced setting.site setting.registry state due) (hsite : setting.site.Lives)
    (hreads : setting.registry.Reads state store)
    (hdue : due.Perm (owed setting.site store (setting.registry.answers state))) :
    ∃ events : List Event, (∀ event ∈ events, event.isExpiry = false) ∧
      ∃ result trace, (gate.after (fun _ => setting) events).phase 0 = .returned result trace := by
  -- on what there is to do, which every event that does something lessens
  induction hbound : gate.todo setting store using Nat.strongRecOn generalizing gate with
  | ind bound ih =>
    rcases h.exists_event hreads with hreturned | ⟨event, next, hevent, hmoves⟩
    · exact ⟨[], fun event hevent => (List.not_mem_nil hevent).elim, hreturned⟩
    · obtain ⟨hnext, hless⟩ := hmoves.balanced hsite hreads hdue h hevent
      obtain ⟨events, hevents, hreturned⟩ := ih _ (hbound ▸ hless) hnext rfl
      refine ⟨event :: events, fun other hother => ?_, ?_⟩
      · rcases List.mem_cons.mp hother with rfl | hrest
        · exact hevent
        · exact hevents other hrest
      · rwa [after_cons, hmoves.handle_eq]

end Gate

/-! ## §3. One multiset of sends. -/

/-- An attempt at a cycle that meets no deadline sends what the store's
subscriptions call for, in whatever order its errands take their steps; it
can always come to its end, and does so after boundedly many steps.  On a
clock it ends whatever the pace of the site, at the deadline or with the same
sends. -/
theorem cycle_sends_owed {setting : Setting σ} {state : σ} {store : Store}
    (hsite : setting.site.Lives) (hreads : setting.registry.Reads state store) :
    (∀ events : List Event, (∀ event ∈ events, event.isExpiry = false) →
      (∀ result trace,
        ((Gate.free 1 state).after (fun _ => setting) events).phase 0 = .returned result trace →
        trace.sends.Perm (owed setting.site store (setting.registry.answers state)) ∧
          ∀ report, result = .ok report →
            report.sends.Perm (owed setting.site store (setting.registry.answers state))) ∧
      ∃ more : List Event, (∀ event ∈ more, event.isExpiry = false) ∧
        ∃ result trace, ((Gate.free 1 state).after (fun _ => setting) (events ++ more)).phase 0 =
          .returned result trace) ∧
    (∃ bound, ∀ events : List Event, (∀ event ∈ events, event.isExpiry = false) →
      (Gate.free 1 state).Stirring (fun _ => setting) events → events.length ≤ bound) ∧
    Session.Ends setting 0 (owed setting.site store (setting.registry.answers state))
      (play setting 1 state).1 (play setting 1 state).2 := by
  have hfree : (Gate.free 1 state).Balanced setting.site setting.registry state
      (owed setting.site store (setting.registry.answers state)) := .outside
  refine ⟨fun events hevents => ⟨fun result trace hreturned => ?_, ?_⟩, ?_,
    play_ends hsite hreads⟩
  · have hafter := hfree.after hsite hreads (.refl _) hevents
    generalize (Gate.free 1 state).after (fun _ => setting) events = gate at hreturned hafter
    -- of the three states of the balance only one has a result
    cases hafter with
    | outside => cases hreturned
    | inside haccounted hpromised => cases hreturned
    | returned last hsends hreport =>
      cases hreturned
      exact ⟨hsends, hreport⟩
  · obtain ⟨more, hmore, hreturned⟩ :=
      (hfree.after hsite hreads (.refl _) hevents).exists_return hsite hreads (.refl _)
    exact ⟨more, hmore, by rwa [Gate.after_append]⟩
  · exact ⟨_, fun events hevents hstirring =>
      hfree.length_le hsite hreads (.refl _) hevents hstirring⟩

/-- One board with one thread and one file: it is sent to the linked user
alone, in any order of the steps and by the clock.  The store also has a user
without a link. -/
theorem oneFile_sends :
    (∀ events : List Event, (∀ event ∈ events, event.isExpiry = false) →
      ∀ result trace, ((Gate.free 1 oneFan).after (fun _ => oneFile.setting) events).phase 0 =
        .returned result trace → trace.sends.Perm [⟨[⟨1, 50⟩], "/7.png", "7"⟩]) ∧
    Session.Ends oneFile.setting 0 [⟨[⟨1, 50⟩], "/7.png", "7"⟩]
      (play oneFile.setting 1 oneFan).1 (play oneFile.setting 1 oneFan).2 := by
  -- what is owed is worked out; that it is sent is the theorem's
  have howed : owed oneFile.setting.site oneFan (oneFile.setting.registry.answers oneFan) =
      [⟨[⟨1, 50⟩], "/7.png", "7"⟩] := by
    decide +kernel
  have hsite : oneFile.setting.site.Lives := Script.site_lives (by decide) (by decide)
  have hreads : oneFile.setting.registry.Reads oneFan oneFan :=
    Script.registry_reads rfl rfl oneFan
  have hall := cycle_sends_owed hsite hreads
  rw [howed] at hall
  exact ⟨fun events hevents result trace h => ((hall.1 events hevents).1 result trace h).1,
    hall.2.2⟩

end BoardRelay.Crawl
