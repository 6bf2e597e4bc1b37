/-
  BoardRelay.Proofs.Crawl.Failure
  ────────────────────────────────
  Cycles that fail.  Whatever is read and advanced is one document, which
  only a cycle that reports can change (`Gate.Backed`, `Gate.Stands`); what a
  failed cycle has sent is part of what the document calls for, so that the
  next cycle to complete sends all of it.
-/
import BoardRelay.Proofs.Crawl.Cursor
import BoardRelay.Proofs.Crawl.Follow
import Mathlib.Data.List.Perm.Subperm

namespace BoardRelay.Crawl

variable {σ : Type}

/-! ## §1. Registries over a document. -/

/-- The users of a subscription, if they can be looked up. -/
def usersFound (answered : Int64 → Bool) (store : Store) (id : Int64) : List User :=
  if answered id then store.subscribersOf id else []

/-- A registry that tells of a document which nobody else moves the cursor
of.  Reading it and advancing the cursor may fail; users can be looked up for
the subscriptions that are answered. -/
structure Registry.Tells (registry : Registry σ) (stored : σ → Store) (answered : Int64 → Bool) :
    Prop where
  cursor : ∀ state cursor, registry.cursor state = .ok cursor → cursor = (stored state).cursor
  subscriptions : ∀ state subscriptions, registry.subscriptions state = .ok subscriptions →
    subscriptions = (stored state).subscriptions
  subscribers : ∀ state id users, registry.subscribers id state = .ok users →
    users = (stored state).subscribersOf id
  answers : ∀ state id, registry.answers state id = answered id
  advance : ∀ timestamp state,
    (∃ next, registry.advance timestamp state = (.ok ((stored state).advance timestamp).1, next) ∧
      stored next = ((stored state).advance timestamp).2) ∨
    ∃ e next, registry.advance timestamp state = (.error e, next) ∧ stored next = stored state

/-- A registry that tells the truth about a store knows the users that the
store links, where it answers. -/
theorem Registry.Tells.known_eq {registry : Registry σ} {stored : σ → Store}
    {answered : Int64 → Bool} (htells : registry.Tells stored answered) (state : σ) :
    registry.known state = usersFound answered (stored state) := by
  funext id
  rw [known, usersFound, ← htells.answers state id, Registry.answers]
  cases hfound : registry.subscribers id state with
  | error e => rfl
  | ok users => exact htells.subscribers state id users hfound

/-- The store in memory tells the truth about itself. -/
theorem Registry.memory_tells : Registry.memory.Tells (fun store => store) fun _ => true where
  cursor := fun _ _ h => (Except.ok.inj h).symm
  subscriptions := fun _ _ h => (Except.ok.inj h).symm
  subscribers := fun _ _ _ h => (Except.ok.inj h).symm
  answers := fun _ _ => rfl
  advance := fun _ _ => .inl ⟨_, rfl, rfl⟩

/-- A store in a file keeps its document when it cannot be written. -/
theorem Registry.saved_tells : Registry.saved.Tells (fun state => state.1.store) fun _ => true where
  cursor := fun _ _ h => (Except.ok.inj h).symm
  subscriptions := fun _ _ h => (Except.ok.inj h).symm
  subscribers := fun _ _ _ h => (Except.ok.inj h).symm
  answers := fun _ _ => rfl
  advance := by
    intro timestamp (store, disk)
    show (∃ next, store.advance timestamp disk = _ ∧ _) ∨
      ∃ e next, store.advance timestamp disk = _ ∧ _
    rw [Store.Saved.advance, Store.advance]
    by_cases hmoves : store.store.cursor < timestamp
    · rw [if_pos hmoves]
      dsimp only
      -- a save that fails leaves the document as it was in memory
      rcases Store.save store.path { store.store with cursor := timestamp } disk with
        ⟨disk, fault | done⟩
      · exact .inr ⟨_, _, rfl, rfl⟩
      · exact .inl ⟨_, rfl, rfl⟩
    · rw [if_neg hmoves]
      exact .inl ⟨_, rfl, rfl⟩

/-- A script without another writer tells of its store. -/
theorem Script.registry_tells {script : Script} (hrace : script.race = none) :
    script.registry.Tells (fun store => store) fun id => !script.faults.lookup.contains id where
  cursor := by
    intro store cursor h
    simp only [registry] at h
    split at h
    · cases h
    · exact (Except.ok.inj h).symm
  subscriptions := by
    intro store subscriptions h
    simp only [registry] at h
    split at h
    · cases h
    · exact (Except.ok.inj h).symm
  subscribers := by
    intro store id users h
    simp only [registry] at h
    split at h
    · cases h
    · exact (Except.ok.inj h).symm
  answers := by
    intro store id
    simp only [Registry.answers, registry]
    cases script.faults.lookup.contains id <;> rfl
  advance := by
    intro timestamp store
    -- nobody else writes in this script, so the cursor is moved from where it was read
    simp only [registry, overtake, hrace]
    cases script.faults.advance with
    | true => exact .inr ⟨_, _, rfl, rfl⟩
    | false => exact .inl ⟨_, rfl, rfl⟩

/-! ## §2. Cycles over a document. -/

/-- What an errand has sent is part of what it was promised. -/
theorem Errand.Accounted.sent_subperm {site : Site} {known : Int64 → List User} {cursor : UInt64}
    {errand : Errand} (h : errand.Accounted site known cursor) :
    errand.sent.Subperm (errand.promised site known cursor) := by
  obtain ⟨board, subscriptions, stage⟩ := errand
  cases stage with
  | waiting => exact List.nil_subperm
  | listing => exact List.nil_subperm
  | looking found missing users => exact List.nil_subperm
  | fetching queued running tally =>
    obtain ⟨-, -, hsends⟩ := h
    exact (List.sublist_append_left _ _).subperm.trans hsends.subperm
  | reported tally => exact List.Perm.subperm h
  | dead => exact h.elim

/-- The errands leave the cursor alone. -/
theorem Errand.Moves.advance_not_mem {site : Site} {registry : Registry σ} {state : σ}
    {cursor : UInt64} {width : Nat} {errand next : Errand} {step : Step} {trace : Trace}
    (h : errand.Moves site registry state cursor width step next trace) (timestamp : UInt64) :
    .advance timestamp ∉ trace.calls := by
  intro hmem
  cases h with
  | list => cases List.mem_singleton.mp hmem
  | listed => cases hmem
  | lookup => cases List.mem_singleton.mp hmem
  | fetch => cases List.mem_singleton.mp hmem
  | @fetched board subscriptions queued running tally number job hjob =>
    cases hposts : site.posts board job.thread with
    | answer posts => rw [hposts] at hmem; cases hmem
    | failure => rw [hposts] at hmem; cases hmem
    | collapse => rw [hposts] at hmem; cases hmem

theorem subperm_flatMap {α β : Type} {f g : α → List β} {l : List α}
    (h : ∀ a ∈ l, (f a).Subperm (g a)) : (l.flatMap f).Subperm (l.flatMap g) := by
  induction l with
  | nil => exact List.nil_subperm
  | cons a l ih =>
    rw [List.flatMap_cons, List.flatMap_cons]
    exact (h a List.mem_cons_self).append (ih fun b hb => h b (List.mem_cons_of_mem _ hb))

/-- A cycle that works on a document: it began at its cursor, has lost
nothing, and has not touched the cursor. -/
structure Cycle.Backed (site : Site) (answered : Int64 → Bool) (document : Store) (cycle : Cycle) :
    Prop where
  cursor : cycle.cursor = document.cursor
  accounted : cycle.Accounted site (usersFound answered document)
  promised : (cycle.promised site (usersFound answered document)).Perm
    (owed site document answered)
  calls : ∀ timestamp, .advance timestamp ∉ cycle.trace.calls

namespace Cycle

/-- What a cycle has sent so far, its document calls for. -/
theorem Backed.sends_subperm {site : Site} {answered : Int64 → Bool} {document : Store}
    {cycle : Cycle} (h : cycle.Backed site answered document) :
    cycle.trace.sends.Subperm (owed site document answered) := by
  refine h.accounted.sends.subperm.trans (List.Subperm.trans ?_ h.promised.subperm)
  exact subperm_flatMap fun errand herrand => (h.accounted.errands errand herrand).sent_subperm

/-- A cycle that has begun works on the document as it found it. -/
theorem backed_of_start {registry : Registry σ} {stored : σ → Store} {answered : Int64 → Bool}
    (htells : registry.Tells stored answered) (site : Site) {width : Nat} {state : σ}
    {cycle : Cycle} (h : Cycle.start registry width state = .ok cycle) :
    cycle.Backed site answered (stored state) := by
  obtain ⟨cursor, subscriptions, hcursor, hsubscriptions, -⟩ := of_start h
  -- a start that succeeds has read both, so the registry reads the document
  have hreads : registry.Reads state (stored state) := by
    refine ⟨?_, ?_, htells.subscribers state⟩
    · rw [hcursor, htells.cursor state cursor hcursor]
    · rw [hsubscriptions, htells.subscriptions state subscriptions hsubscriptions]
  cases (start_eq hreads width).symm.trans h
  have hanswers : registry.answers state = answered := funext (htells.answers state)
  refine ⟨rfl, accounted_opening _ _ _ _, ?_, fun timestamp => List.not_mem_nil⟩
  rw [← htells.known_eq state, ← hanswers]
  exact promised_opening hreads site width

/-- **A step in a cycle keeps it backed by the document it was read from.**
The cycle asks for the cursor to be moved only when it returns, so the state is
the same before and after. -/
theorem Backed.step {site : Site} {registry : Registry σ} {stored : σ → Store}
    {answered : Int64 → Bool} (hsite : site.Lives) (htells : registry.Tells stored answered)
    {state : σ} {cycle next : Cycle} {position : Nat} {step : Step}
    (h : cycle.Backed site answered (stored state))
    (hstep : cycle.step site registry state position step = some next) :
    next.Backed site answered (stored state) := by
  have hknown := htells.known_eq state
  obtain ⟨hcursor, haccounted, hpromised, hcalls⟩ := h
  rw [← hknown] at haccounted hpromised
  -- cursor, promise and accounts are kept as in any step; that the cursor is not asked to move is
  -- read off the moves
  refine ⟨?_, ?_, ?_, fun timestamp hmem => ?_⟩
  · obtain ⟨errand, after, trace, -, -, rfl⟩ := Cycle.step_eq_some_iff.mp hstep
    exact hcursor
  · rw [← hknown]
    exact haccounted.step hsite hstep
  · rw [← hknown, Cycle.promised_step hstep]
    exact hpromised
  · obtain ⟨errand, after, trace, -, hmoves, rfl⟩ := Cycle.step_eq_some_iff.mp hstep
    rcases List.mem_append.mp hmem with hold | hnew
    · exact hcalls timestamp hold
    · exact hmoves.advance_not_mem timestamp hnew

/-- Ending a cycle changes the document only if the cycle reports. -/
theorem Backed.commit {site : Site} {registry : Registry σ} {stored : σ → Store}
    {answered : Int64 → Bool} (htells : registry.Tells stored answered)
    {state last : σ} {cycle : Cycle} {result : Except Error Report} {trace : Trace}
    (h : cycle.Backed site answered (stored state))
    (hcommit : cycle.commit registry state = (result, trace, last)) :
    stored last = stored state ∨ ∃ report, result = .ok report := by
  rw [Cycle.commit] at hcommit
  split at hcommit
  · next hnewer =>
    rw [h.cursor] at hnewer
    have hmoves : ((stored state).advance cycle.newest).1 = true := by
      rw [Store.advance, if_pos hnewer]
    -- the move is made and the cycle reports, or it fails and the document stays
    rcases htells.advance cycle.newest state with ⟨next, hadvance, -⟩ | ⟨e, next, hadvance, hsame⟩
    · rw [hadvance, hmoves] at hcommit
      cases hcommit
      exact .inr ⟨_, rfl⟩
    · rw [hadvance] at hcommit
      cases hcommit
      exact .inl hsame
  · cases hcommit
    exact .inl rfl

end Cycle

/-! ## §3. Attempts over a document. -/

namespace Gate

/-- A gate at which whoever is past it works on the document as it is. -/
structure Backed (site : Site) (stored : σ → Store) (answered : Int64 → Bool) (gate : Gate σ) :
    Prop where
  exclusive : gate.Exclusive
  cycle : ∀ {attempt cycle}, gate.phase attempt = .inside cycle →
    cycle.Backed site answered (stored gate.state)

/-- What has become of an attempt that found a document when it came: it
works on it, has failed and left it as it was, or has sent all that it calls
for. -/
inductive Stands (site : Site) (stored : σ → Store) (answered : Int64 → Bool) (document : Store)
    (attempt : Nat) (gate : Gate σ) : Prop where
  | inside {cycle : Cycle} (hinside : gate.phase attempt = .inside cycle)
      (hstored : stored gate.state = document)
  | failed {e : Error} {trace : Trace}
      (hreturned : gate.phase attempt = .returned (.error e) trace)
      (hstored : stored gate.state = document)
      (hsends : trace.sends.Subperm (owed site document answered))
  | done {report : Report} {trace : Trace}
      (hreturned : gate.phase attempt = .returned (.ok report) trace)
      (hsends : trace.sends.Perm (owed site document answered))
      (hreport : report.sends.Perm (owed site document answered))

/-- Whether an attempt has returned. -/
def isOver (gate : Gate σ) (attempt : Nat) : Bool :=
  match gate.phase attempt with
  | .returned _ _ => true
  | _ => false

/-- Whether an attempt returns in the last of these events. -/
def endsAfter (settings : Nat → Setting σ) (attempt : Nat) : List Event → Gate σ → Bool
  | [], gate => gate.isOver attempt
  | event :: events, gate =>
    !gate.isOver attempt && endsAfter settings attempt events (gate.handle settings event)

section Runs

variable {settings : Nat → Setting σ} {site : Site} {stored : σ → Store} {answered : Int64 → Bool}

theorem backed_free (attempts : Nat) (state : σ) :
    (Gate.free attempts state).Backed site stored answered := by
  refine ⟨exclusive_free attempts state, fun {attempt cycle} hinside => ?_⟩
  rw [phase_free] at hinside
  cases hinside

/-- Whoever is past the gate when another attempt has returned was there
before. -/
theorem inside_of_returned (gate : Gate σ) {attempt other : Nat} {result : Except Error Report}
    {trace : Trace} {cycle : Cycle} (hattempt : attempt < gate.phases.length)
    (hinside : (gate.withPhase attempt (.returned result trace)).phase other = .inside cycle) :
    other ≠ attempt ∧ gate.phase other = .inside cycle := by
  have hne : other ≠ attempt := by
    rintro rfl
    rw [phase_withPhase_self _ hattempt] at hinside
    cases hinside
  exact ⟨hne, by rwa [phase_withPhase_of_ne _ _ hne] at hinside⟩

/-- No move at the gate leaves a cycle inside without its backing: only the
return of a cycle changes the document, and then nobody is inside. -/
theorem Moves.backed (hsite : site.Lives) (hsites : ∀ attempt, (settings attempt).site = site)
    (htells : ∀ attempt, (settings attempt).registry.Tells stored answered)
    {gate next : Gate σ} {event : Event} (hmoves : gate.Moves settings event next)
    (h : gate.Backed site stored answered) : next.Backed site stored answered := by
  refine ⟨hmoves.exclusive h.exclusive, fun {other another} hother => ?_⟩
  cases hmoves with
  | turnedAway hattempt => exact h.cycle (inside_of_returned gate hattempt hother).2
  | failed hattempt => exact h.cycle (inside_of_returned gate hattempt hother).2
  | expired hattempt => exact h.cycle (inside_of_returned gate hattempt hother).2
  | @entered attempt cycle hattempt houtside hfree hstart =>
    by_cases heq : other = attempt
    · subst heq
      cases (phase_withPhase_self (.inside cycle) hattempt).symm.trans hother
      exact Cycle.backed_of_start (htells other) site hstart
    · exact h.cycle ((phase_withPhase_of_ne gate _ heq).symm.trans hother)
  | @worked attempt position step cycle after hattempt hinside hstep =>
    by_cases heq : other = attempt
    · subst heq
      cases (phase_withPhase_self (.inside after) hattempt).symm.trans hother
      rw [hsites] at hstep
      exact (h.cycle hinside).step hsite (htells other) hstep
    · exact h.cycle ((phase_withPhase_of_ne gate _ heq).symm.trans hother)
  | @finished attempt cycle result trace state hattempt hinside hsettled hcommit =>
    -- The document may be another now, but nobody is left who works on it.
    obtain ⟨hne, hthere⟩ := inside_of_returned { gate with state } hattempt hother
    exact absurd hthere (h.exclusive.phase_ne hinside hne another)

theorem Backed.handle (hsite : site.Lives) (hsites : ∀ attempt, (settings attempt).site = site)
    (htells : ∀ attempt, (settings attempt).registry.Tells stored answered) {gate : Gate σ}
    (h : gate.Backed site stored answered) (event : Event) :
    (gate.handle settings event).Backed site stored answered := by
  rcases handle_eq_or_moves settings gate event with hsame | hmoves
  · rwa [hsame]
  · exact hmoves.backed hsite hsites htells h

/-- An attempt that comes to the gate begins or fails. -/
theorem stands_enter (settings : Nat → Setting σ) (site : Site) (stored : σ → Store)
    (answered : Int64 → Bool) {gate : Gate σ} {attempt : Nat}
    (hattempt : attempt < gate.phases.length) (houtside : gate.phase attempt = .outside) :
    (gate.handle settings (.enter attempt)).Stands site stored answered (stored gate.state)
      attempt := by
  -- turned away, failed at its reads, or let in
  cases htaken : gate.taken with
  | true =>
    have hmoves : gate.Moves settings (.enter attempt) _ :=
      .turnedAway hattempt houtside htaken
    rw [hmoves.handle_eq]
    exact .failed (phase_withPhase_self _ hattempt) rfl List.nil_subperm
  | false =>
    cases hstart : Cycle.start (settings attempt).registry
        (settings attempt).limits.maxConcurrent gate.state with
    | error e =>
      have hmoves := Moves.failed hattempt houtside htaken hstart
      rw [hmoves.handle_eq]
      exact .failed (phase_withPhase_self _ hattempt) rfl List.nil_subperm
    | ok cycle =>
      have hmoves := Moves.entered hattempt houtside htaken hstart
      rw [hmoves.handle_eq]
      exact .inside (phase_withPhase_self _ hattempt) rfl

/-- An attempt past the gate goes on with its document, fails or is done. -/
theorem Backed.stands_handle
    (htells : ∀ attempt, (settings attempt).registry.Tells stored answered) {gate : Gate σ}
    (h : gate.Backed site stored answered) {attempt : Nat} {cycle : Cycle} {document : Store}
    (hinside : gate.phase attempt = .inside cycle) (hstored : stored gate.state = document)
    (event : Event) :
    (gate.handle settings event).Stands site stored answered document attempt := by
  subst hstored
  rcases handle_eq_or_moves settings gate event with hsame | hmoves
  · rw [hsame]
    exact .inside hinside rfl
  · generalize gate.handle settings event = next at hmoves
    -- The gate is taken by this attempt, so that of the others none gets past it.
    have hother : ∀ {other : Nat} {phase : Phase}, gate.phase other ≠ .inside cycle →
        (gate.withPhase other phase).phase attempt = .inside cycle := by
      intro other phase hne
      rw [phase_withPhase_of_ne _ _ fun heq : attempt = other => hne (heq ▸ hinside)]
      exact hinside
    cases hmoves with
    | turnedAway hattempt houtside =>
      exact .inside (hother (by rw [houtside]; exact nofun)) rfl
    | failed hattempt houtside hfree =>
      exact .inside (hother (by rw [houtside]; exact nofun)) rfl
    | entered hattempt houtside hfree =>
      exact .inside (hother (by rw [houtside]; exact nofun)) rfl
    | @worked other position step there after hattempt hthere hstep =>
      obtain rfl : attempt = other := h.exclusive.eq_of_inside hinside hthere
      exact .inside (phase_withPhase_self _ hattempt) rfl
    | @expired other there hattempt hthere =>
      obtain rfl : attempt = other := h.exclusive.eq_of_inside hinside hthere
      exact .failed (phase_withPhase_self _ hattempt) rfl (h.cycle hthere).sends_subperm
    | @finished other there result trace state hattempt hthere hsettled hcommit =>
      obtain rfl : attempt = other := h.exclusive.eq_of_inside hinside hthere
      have hbacked := h.cycle hthere
      have hsent := (hbacked.accounted.sends_perm hsettled).trans hbacked.promised
      obtain ⟨htrace, hreport⟩ :=
        Cycle.commit_sends (settings attempt).registry gate.state there
      rw [hcommit] at htrace hreport
      have hphase : (({ gate with state } : Gate σ).release attempt result trace).phase attempt =
          .returned result trace := phase_withPhase_self _ hattempt
      cases result with
      | error e =>
        refine .failed hphase ?_ (htrace ▸ hsent.subperm)
        rcases hbacked.commit (htells attempt) hcommit with hsame | ⟨report, hok⟩
        · exact hsame
        · cases hok
      | ok report =>
        obtain ⟨after, rfl⟩ := hreport report rfl
        exact .done hphase (htrace ▸ hsent)
          ((hbacked.accounted.report_sends hsettled after).trans hsent)

/-- An attempt has done with its document when it returns. -/
theorem Backed.stands_after (hsite : site.Lives)
    (hsites : ∀ attempt, (settings attempt).site = site)
    (htells : ∀ attempt, (settings attempt).registry.Tells stored answered) {gate : Gate σ}
    (h : gate.Backed site stored answered) {attempt : Nat} {document : Store}
    (hstands : gate.Stands site stored answered document attempt) {events : List Event}
    (hends : gate.endsAfter settings attempt events = true) :
    (gate.after settings events).Stands site stored answered document attempt := by
  induction events generalizing gate with
  | nil => exact hstands
  | cons event events ih =>
    rw [endsAfter, Bool.and_eq_true, Bool.not_eq_true'] at hends
    obtain ⟨hopen, hrest⟩ := hends
    -- until it has returned, the attempt is past the gate
    refine ih (h.handle hsite hsites htells event) ?_ hrest
    cases hstands with
    | inside hinside hstored => exact h.stands_handle htells hinside hstored event
    | failed hreturned => rw [isOver, hreturned] at hopen; cases hopen
    | done hreturned => rw [isOver, hreturned] at hopen; cases hopen

/-- Who has returned asks and sends nothing more. -/
theorem phase_after_of_returned {gate : Gate σ} {attempt : Nat} {result : Except Error Report}
    {trace : Trace} (hreturned : gate.phase attempt = .returned result trace)
    (events : List Event) :
    (gate.after settings events).phase attempt = .returned result trace := by
  refine after_keeps_all (P := fun later => later.phase attempt = .returned result trace)
    (fun later event hlater => ?_) events hreturned
  rcases handle_eq_or_moves settings later event with hsame | hmoves
  · rwa [hsame]
  · generalize later.handle settings event = next at hmoves
    -- whoever moves is not this attempt, which has returned
    have hother : ∀ {other : Nat} {phase : Phase}, later.phase other ≠ .returned result trace →
        (later.withPhase other phase).phase attempt = .returned result trace := by
      intro other phase hne
      rw [phase_withPhase_of_ne _ _ fun heq : attempt = other => hne (heq ▸ hlater)]
      exact hlater
    cases hmoves with
    | turnedAway hattempt houtside => exact hother (by rw [houtside]; exact nofun)
    | failed hattempt houtside => exact hother (by rw [houtside]; exact nofun)
    | entered hattempt houtside => exact hother (by rw [houtside]; exact nofun)
    | worked hattempt hinside => exact hother (by rw [hinside]; exact nofun)
    | expired hattempt hinside => exact hother (by rw [hinside]; exact nofun)
    | finished hattempt hinside => exact hother (by rw [hinside]; exact nofun)

/-- A run makes no attempt more or less. -/
theorem length_phases_after (settings : Nat → Setting σ) (events : List Event) (gate : Gate σ) :
    (gate.after settings events).phases.length = gate.phases.length := by
  refine after_keeps_all (P := fun later => later.phases.length = gate.phases.length)
    (fun later event hlater => ?_) events rfl
  rcases handle_eq_or_moves settings later event with hsame | hmoves
  · rwa [hsame]
  · generalize later.handle settings event = next at hmoves
    cases hmoves <;> exact List.length_set.trans hlater

/-- In every run the cycle that is inside is backed by the document. -/
theorem backed_after (hsite : site.Lives) (hsites : ∀ attempt, (settings attempt).site = site)
    (htells : ∀ attempt, (settings attempt).registry.Tells stored answered) (attempts : Nat)
    (state : σ) (events : List Event) :
    ((Gate.free attempts state).after settings events).Backed site stored answered :=
  after_keeps_all (fun _ event h => h.handle hsite hsites htells event) events
    (backed_free attempts state)

/-- How an attempt at a gate that has been run stands when it returns. -/
theorem stands_of_endsAfter (hsite : site.Lives)
    (hsites : ∀ attempt, (settings attempt).site = site)
    (htells : ∀ attempt, (settings attempt).registry.Tells stored answered) {attempts : Nat}
    {state : σ} {events rest : List Event} {attempt : Nat} (hattempt : attempt < attempts)
    (houtside : ((Gate.free attempts state).after settings events).phase attempt = .outside)
    (hends : ((Gate.free attempts state).after settings events).endsAfter settings attempt
      (.enter attempt :: rest) = true) :
    ((Gate.free attempts state).after settings (events ++ .enter attempt :: rest)).Stands site
      stored answered (stored ((Gate.free attempts state).after settings events).state) attempt := by
  have hlength : ((Gate.free attempts state).after settings events).phases.length = attempts :=
    (length_phases_after settings events _).trans List.length_replicate
  have hbacked : ((Gate.free attempts state).after settings events).Backed site stored answered :=
    backed_after hsite hsites htells attempts state events
  rw [after_append, after_cons]
  rw [endsAfter, Bool.and_eq_true] at hends
  exact (hbacked.handle hsite hsites htells (.enter attempt)).stands_after hsite hsites htells
    (stands_enter settings site stored answered (hlength.symm ▸ hattempt) houtside) hends.2

end Runs

end Gate

/-! ## §4. Repeated, never lost. -/

/-- Attempts at cycles over one document that nobody else moves the cursor of,
on a site where nobody dies, in whatever order their parts take their turns.
An attempt that fails leaves the document as it found it, and has sent part of
what that calls for, while any attempt that completes over the same document
sends all of it.  From its deadline on an attempt asks and sends nothing more,
nor has it touched the cursor before; on a clock, all it did came before the
instant of the deadline. -/
theorem failure_repeats_never_loses {settings : Nat → Setting σ} {site : Site}
    {stored : σ → Store} {answered : Int64 → Bool} (hsite : site.Lives)
    (hsites : ∀ attempt, (settings attempt).site = site)
    (htells : ∀ attempt, (settings attempt).registry.Tells stored answered)
    (attempts : Nat) (state : σ) (events : List Event) (attempt : Nat)
    (hattempt : attempt < attempts) :
    (∀ rest e trace,
      ((Gate.free attempts state).after settings events).phase attempt = .outside →
      ((Gate.free attempts state).after settings events).endsAfter settings attempt
        (.enter attempt :: rest) = true →
      ((Gate.free attempts state).after settings (events ++ .enter attempt :: rest)).phase
        attempt = .returned (.error e) trace →
      stored ((Gate.free attempts state).after settings (events ++ .enter attempt :: rest)).state =
        stored ((Gate.free attempts state).after settings events).state ∧
      trace.sends.Subperm (owed site
        (stored ((Gate.free attempts state).after settings events).state) answered) ∧
      ∀ before other during report full, other < attempts →
        ((Gate.free attempts state).after settings before).phase other = .outside →
        stored ((Gate.free attempts state).after settings before).state =
          stored ((Gate.free attempts state).after settings events).state →
        ((Gate.free attempts state).after settings before).endsAfter settings other
          (.enter other :: during) = true →
        ((Gate.free attempts state).after settings (before ++ .enter other :: during)).phase
          other = .returned (.ok report) full →
        full.sends.Perm (owed site
          (stored ((Gate.free attempts state).after settings events).state) answered) ∧
        trace.sends.Subperm full.sends) ∧
    (∀ cycle more, ((Gate.free attempts state).after settings events).phase attempt =
        .inside cycle →
      ((Gate.free attempts state).after settings (events ++ .expire attempt :: more)).phase
        attempt = .returned (.error
          (.cycleDeadline (settings attempt).limits.deadlineSeconds)) cycle.trace ∧
      ∀ timestamp, .advance timestamp ∉ cycle.trace.calls) ∧
    ∀ cycle, Cycle.start (settings attempt).registry (settings attempt).limits.maxConcurrent
        state = .ok cycle →
      ∃ timed, Session.Timely (settings attempt).limits timed ∧
        Session.Comes (settings attempt) 0 state
          (cycle.follow site (settings attempt).registry state (timed.map (·.2)))
          (play (settings attempt) 1 state).1 (play (settings attempt) 1 state).2 := by
  refine ⟨fun rest e trace houtside hends hreturned => ?_, fun cycle more hinside => ?_,
    fun cycle hstart => ?_⟩
  · obtain ⟨hsame, hpart⟩ : stored ((Gate.free attempts state).after settings
          (events ++ .enter attempt :: rest)).state =
          stored ((Gate.free attempts state).after settings events).state ∧
        trace.sends.Subperm (owed site
          (stored ((Gate.free attempts state).after settings events).state) answered) := by
      cases Gate.stands_of_endsAfter hsite hsites htells hattempt houtside hends with
      | inside hinside => cases hinside.symm.trans hreturned
      | failed hfailed hstored hsends =>
        cases hfailed.symm.trans hreturned
        exact ⟨hstored, hsends⟩
      | done hdone => cases hdone.symm.trans hreturned
    refine ⟨hsame, hpart,
      fun before other during report full hother hout hdocument hlast hfull => ?_⟩
    cases Gate.stands_of_endsAfter hsite hsites htells hother hout hlast with
    | inside hinside => cases hinside.symm.trans hfull
    | failed hfailed => cases hfailed.symm.trans hfull
    | done hdone hsends =>
      cases hdone.symm.trans hfull
      rw [hdocument] at hsends
      exact ⟨hsends, hpart.trans hsends.symm.subperm⟩
  · -- the cycle that is cut short was backed until then
    have hbacked := Gate.backed_after hsite hsites htells attempts state events
    have hexpired : ((Gate.free attempts state).after settings events).Moves settings
        (.expire attempt) _ := .expired (Gate.lt_length_of_inside hinside) hinside
    rw [Gate.after_append, Gate.after_cons, hexpired.handle_eq]
    refine ⟨Gate.phase_after_of_returned ?_ more, (hbacked.cycle hinside).calls⟩
    exact Gate.phase_withPhase_self _ (Gate.lt_length_of_inside hinside)
  · obtain ⟨timed, htimely, hcomes, -⟩ := play_follows hstart
    exact ⟨timed, htimely, hsites attempt ▸ hcomes⟩

/-- The steps of another attempt that sends the same file and reports. -/
def nextRun : List Event :=
  [.work 1 0 .list, .work 1 0 .listed, .work 1 0 (.lookup 0), .work 1 0 .fetch,
    .work 1 0 (.fetched 0), .finish 1]

theorem oneFile_sent_again :
    ((Gate.free 2 oneFan).after (fun _ => oneFile.setting) (oneRun ++ [.expire 0])).state =
      oneFan ∧
    ((Gate.free 2 oneFan).after (fun _ => oneFile.setting)
      (oneRun ++ [.expire 0] ++ .enter 1 :: nextRun)).phase 1 =
        .returned (.ok (oneCycle.report 3)) (oneCycle.trace.append (.call (.advance 3))) ∧
    oneCycle.trace.sends.Subperm (oneCycle.trace.append (.call (.advance 3))).sends := by
  have hsite : oneFile.site.Lives := Script.site_lives (by decide) (by decide)
  have htells : ∀ attempt : Nat,
      ((fun _ => oneFile.setting : Nat → Setting Store) attempt).registry.Tells (fun store => store)
        fun id => !oneFile.faults.lookup.contains id :=
    fun _ => Script.registry_tells rfl
  -- the second attempt sends the same file and reports
  have hfull : ((Gate.free 2 oneFan).after (fun _ => oneFile.setting)
      (oneRun ++ [.expire 0] ++ .enter 1 :: nextRun)).phase 1 =
        .returned (.ok (oneCycle.report 3)) (oneCycle.trace.append (.call (.advance 3))) := by
    decide +kernel
  have hall := failure_repeats_never_loses hsite (fun _ => rfl) htells 2 oneFan [] 0 (by decide)
  -- The first attempt is given up with the file on its way.
  obtain ⟨hsame, -, hrepeats⟩ := hall.1 (oneRun.tail ++ [.expire 0]) (.cycleDeadline 0)
    oneCycle.trace rfl (by decide +kernel) (by decide +kernel)
  exact ⟨hsame, hfull, (hrepeats (oneRun ++ [.expire 0]) 1 nextRun _ _ (by decide)
    (by decide +kernel) hsame (by decide +kernel) hfull).2⟩

end BoardRelay.Crawl
