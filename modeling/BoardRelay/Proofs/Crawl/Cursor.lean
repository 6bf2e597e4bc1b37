/-
  BoardRelay.Proofs.Crawl.Cursor
  ────────────────────────────────
  The cursor of a store in memory, along any run of cycles: it never goes
  back, a cycle that reports leaves it where the report says, and that is at
  or behind every post of which the cycle sent a file.

  Three maxima are linked by one notion: the time of a dispatched post stays
  covered by its errand (`Errand.Covers`) until the cycle ends, and by the
  cursor from then on.  The dispatches of a run are those of its log.
-/
import BoardRelay.Proofs.Crawl.Dispatch
import BoardRelay.Proofs.Crawl.Script

namespace BoardRelay.Crawl

/-! ## §1. Newest times. -/

theorem word_le_max_left (a b : UInt64) : a ≤ max a b := by
  show a ≤ if a ≤ b then b else a
  split
  · next hle => exact hle
  · exact UInt64.le_refl a

theorem word_le_max_right (a b : UInt64) : b ≤ max a b := by
  show b ≤ if a ≤ b then b else a
  split
  · exact UInt64.le_refl b
  · next hnot => exact (UInt64.le_total a b).resolve_left hnot

/-- The newest of a list of times and a first one is as new as each of
them. -/
theorem le_foldl_max {α : Type} (time : α → UInt64) (l : List α) (first : UInt64) :
    first ≤ l.foldl (fun latest a => max latest (time a)) first ∧
      ∀ a ∈ l, time a ≤ l.foldl (fun latest a => max latest (time a)) first := by
  -- the first one grows with every time that is folded in
  induction l generalizing first with
  | nil => exact ⟨UInt64.le_refl first, fun a h => (List.not_mem_nil h).elim⟩
  | cons head l ih =>
    obtain ⟨hstart, hall⟩ := ih (max first (time head))
    refine ⟨UInt64.le_trans (word_le_max_left _ _) hstart, fun a h => ?_⟩
    rcases List.mem_cons.mp h with rfl | hrest
    · exact UInt64.le_trans (word_le_max_right _ _) hstart
    · exact hall a hrest

/-! ## §2. Registries over a store in memory. -/

/-- The store after another writer has perhaps moved its cursor forward. -/
def overtaken (other : Option UInt64) (store : Store) : Store :=
  match other with
  | none => store
  | some timestamp => (store.advance timestamp).2

/-- A registry over a store in memory, of which any question may fail, and
which another writer may use just before the cursor is moved. -/
structure Registry.Contended (registry : Registry Store) : Prop where
  cursor : ∀ store cursor, registry.cursor store = .ok cursor → cursor = store.cursor
  advance : ∀ timestamp store, ∃ other,
    registry.advance timestamp store = Registry.memory.advance timestamp (overtaken other store) ∨
    ∃ e, registry.advance timestamp store = (.error e, overtaken other store)

/-- A store in memory that nobody else uses is one of that kind. -/
theorem Registry.memory_contended : Registry.memory.Contended :=
  ⟨fun _ _ h => (Except.ok.inj h).symm, fun _ _ => ⟨none, .inl rfl⟩⟩

/-- So is one whose questions fail as a script tells, and that another writer
uses as it tells. -/
theorem Script.registry_contended (script : Script) : script.registry.Contended := by
  refine ⟨fun store cursor h => ?_, fun timestamp store => ?_⟩
  · simp only [registry] at h
    split at h
    · cases h
    · exact (Except.ok.inj h).symm
  · -- a move that fails leaves the cursor; any other finds it where the rival has put it, if there
    -- is one
    cases hfault : script.faults.advance with
    | true =>
      refine ⟨none, .inr ⟨locked, ?_⟩⟩
      simp only [registry, hfault, if_true]
      rfl
    | false =>
      refine ⟨script.race, .inl ?_⟩
      simp only [registry, hfault, Bool.false_eq_true, if_false, overtake]
      cases script.race <;> rfl

/-- Moving the cursor never takes it back. -/
theorem advance_cursor_le (timestamp : UInt64) (store : Store) :
    store.cursor ≤ (store.advance timestamp).2.cursor := by
  rw [Store.advance]
  split
  · next hlt => exact UInt64.le_of_lt hlt
  · exact UInt64.le_refl _

theorem Registry.memory_advance_of_lt {timestamp : UInt64} {store : Store}
    (h : store.cursor < timestamp) :
    Registry.memory.advance timestamp store = (.ok true, { store with cursor := timestamp }) := by
  simp only [memory, Store.advance, if_pos h]

theorem Registry.memory_advance_of_not_lt {timestamp : UInt64} {store : Store}
    (h : ¬ store.cursor < timestamp) :
    Registry.memory.advance timestamp store = (.ok false, store) := by
  simp only [memory, Store.advance, if_neg h]

theorem cursor_le_overtaken (other : Option UInt64) (store : Store) :
    store.cursor ≤ (overtaken other store).cursor := by
  cases other with
  | none => exact UInt64.le_refl _
  | some timestamp => exact advance_cursor_le timestamp store

/-- Ending a cycle over the cursor that it began with moves the cursor
forward or leaves it, and a report tells where it is: no earlier than what
the cycle has seen. -/
theorem Cycle.commit_cursor {registry : Registry Store} (hcontended : registry.Contended)
    {store last : Store} {cycle : Cycle} {result : Except Error Report} {trace : Trace}
    (hcursor : cycle.cursor = store.cursor)
    (hcommit : cycle.commit registry store = (result, trace, last)) :
    store.cursor ≤ last.cursor ∧ ∀ report, result = .ok report →
      last.cursor = report.cursorAfter ∧ report.cursorBefore = cycle.cursor ∧
        cycle.newest ≤ report.cursorAfter := by
  rw [commit] at hcommit
  -- The cursor is moved only if something newer was seen; only then can another writer come in
  -- between.
  split at hcommit
  · next hnewer =>
    obtain ⟨other, hadvance | ⟨e, hadvance⟩⟩ := hcontended.advance cycle.newest store
    · -- The other writer may have left nothing to move: then its cursor is told.
      have hle := cursor_le_overtaken other store
      rw [hadvance] at hcommit
      generalize overtaken other store = found at hcommit hle
      by_cases hmoves : found.cursor < cycle.newest
      · rw [Registry.memory_advance_of_lt hmoves] at hcommit
        cases hcommit
        refine ⟨UInt64.le_trans hle (UInt64.le_of_lt hmoves), fun report h => ?_⟩
        cases h
        exact ⟨rfl, rfl, UInt64.le_refl _⟩
      · rw [Registry.memory_advance_of_not_lt hmoves] at hcommit
        cases hcommit
        refine ⟨hle, fun report h => ?_⟩
        cases hnow : registry.cursor last with
        | error e => rw [hnow] at h; cases h
        | ok now =>
          rw [hnow] at h
          cases h
          have hfound : now = last.cursor := hcontended.cursor last now hnow
          exact ⟨hfound.symm, rfl, hfound ▸ UInt64.not_lt.mp hmoves⟩
    · rw [hadvance] at hcommit
      cases hcommit
      exact ⟨cursor_le_overtaken other store, fun report h => by cases h⟩
  · next hseen =>
    cases hcommit
    refine ⟨UInt64.le_refl _, fun report h => ?_⟩
    cases h
    exact ⟨hcursor.symm, rfl, UInt64.not_lt.mp hseen⟩

/-! ## §3. Covered times. -/

/-- Whether what an errand will report is at or behind a time.  Of one that
died nothing is expected. -/
def Errand.Covers (time : UInt64) (errand : Errand) : Prop :=
  match errand.stage with
  | .fetching _ _ tally => time ≤ tally.newest
  | .reported tally => time ≤ tally.newest
  | .dead => True
  | _ => False

/-- A time stays covered when the last job has come back. -/
theorem Errand.covers_fetchingOrDone {time : UInt64} (board : String)
    (subscriptions : List Subscription) (queued running : List Job) {tally : Tally}
    (h : time ≤ tally.newest) :
    Errand.Covers time ⟨board, subscriptions, fetchingOrDone queued running tally⟩ := by
  rw [fetchingOrDone]
  split <;> exact h

/-- A time that is covered stays covered. -/
theorem Errand.Moves.covers {σ : Type} {site : Site} {registry : Registry σ} {state : σ}
    {cursor time : UInt64} {width : Nat} {errand next : Errand} {step : Step} {trace : Trace}
    (h : errand.Moves site registry state cursor width step next trace)
    (hcovers : errand.Covers time) : next.Covers time := by
  cases h with
  -- before its jobs an errand covers nothing that could be lost
  | list => exact hcovers.elim
  | listed => exact hcovers.elim
  | lookup => exact hcovers.elim
  | fetch => exact hcovers
  | @fetched board subscriptions queued running tally number job hjob =>
    cases site.posts board job.thread with
    | answer posts =>
      exact covers_fetchingOrDone _ _ _ _ (UInt64.le_trans hcovers (word_le_max_left _ _))
    | failure => exact covers_fetchingOrDone _ _ _ _ hcovers
    | collapse => trivial

/-- What a step dispatches is newer than the cursor, and covered after the
step. -/
theorem Errand.Moves.covers_dispatch {σ : Type} {site : Site} {registry : Registry σ} {state : σ}
    {cursor : UInt64} {width : Nat} {errand next : Errand} {step : Step} {trace : Trace}
    (h : errand.Moves site registry state cursor width step next trace) {dispatch : Dispatch}
    (hdispatch : dispatch ∈ errand.dispatches site cursor step) :
    cursor < dispatch.post.timestamp ∧ next.Covers dispatch.post.timestamp := by
  cases h with
  | list => cases hdispatch
  | listed => cases hdispatch
  | lookup => cases hdispatch
  | fetch => cases hdispatch
  | @fetched board subscriptions queued running tally number job hjob =>
    simp only [dispatches, hjob] at hdispatch
    cases hposts : site.posts board job.thread with
    | failure => rw [hposts] at hdispatch; cases hdispatch
    | collapse => rw [hposts] at hdispatch; cases hdispatch
    | answer posts =>
      rw [hposts] at hdispatch
      obtain ⟨post, hpost, hsent⟩ := List.mem_flatMap.mp hdispatch
      obtain ⟨send, -, rfl⟩ := List.mem_map.mp hsent
      -- the tally is raised to the newest post of the thread, which is not before this one
      have hnewest : post.timestamp ≤ newest cursor posts :=
        (le_foldl_max (fun post : Post => post.timestamp) (newPosts cursor posts) cursor).2 post
          hpost
      refine ⟨of_decide_eq_true (List.mem_filter.mp hpost).2, ?_⟩
      exact covers_fetchingOrDone _ _ _ _ (UInt64.le_trans hnewest (word_le_max_right _ _))

/-- What the errands of a settled cycle cover, the cycle has seen, unless one
of them died. -/
theorem Cycle.le_newest_of_covers {cycle : Cycle} (hsettled : cycle.isSettled = true)
    (hlives : ∀ errand ∈ cycle.errands, errand.stage ≠ .dead) {errand : Errand}
    (herrand : errand ∈ cycle.errands) {time : UInt64} (hcovers : errand.Covers time) :
    time ≤ cycle.newest := by
  have hdone := List.all_eq_true.mp hsettled errand herrand
  have halive := hlives errand herrand
  obtain ⟨board, subscriptions, stage⟩ := errand
  cases stage with
  | reported tally =>
    -- a settled errand that lives has reported, and the newest of all reports is at least its own
    have htally : tally ∈ cycle.tallies := List.mem_filterMap.mpr ⟨_, herrand, rfl⟩
    exact UInt64.le_trans hcovers ((le_foldl_max (fun tally : Tally => tally.newest) cycle.tallies
      cycle.cursor).2 tally htally)
  | dead => exact absurd rfl halive
  | waiting => cases hdone
  | listing => cases hdone
  | looking found missing users => cases hdone
  | fetching queued running tally => cases hdone

/-! ## §4. Runs. -/

/-- A cycle begins at the cursor of the store. -/
theorem Cycle.start_cursor {registry : Registry Store} (hcontended : registry.Contended)
    {width : Nat} {store : Store} {cycle : Cycle}
    (h : Cycle.start registry width store = .ok cycle) : cycle.cursor = store.cursor := by
  obtain ⟨cursor, subscriptions, hcursor, -, rfl⟩ := of_start h
  exact hcontended.cursor store cursor hcursor

namespace Gate

/-- A gate as a run with some log leaves it: whoever is past it began at the
cursor of the store, and covers what it has dispatched. -/
structure Watched (log : List (Nat × Dispatch)) (gate : Gate Store) : Prop where
  exclusive : gate.Exclusive
  cursor : ∀ {attempt cycle}, gate.phase attempt = .inside cycle →
    cycle.cursor = gate.state.cursor
  covered : ∀ {attempt cycle}, gate.phase attempt = .inside cycle → ∀ {dispatch},
    (attempt, dispatch) ∈ log → ∃ errand ∈ cycle.errands, errand.Covers dispatch.post.timestamp
  outside : ∀ {attempt}, gate.phase attempt = .outside → ∀ dispatch, (attempt, dispatch) ∉ log

/-- A free gate has nobody to watch. -/
theorem watched_free (attempts : Nat) (store : Store) :
    (Gate.free attempts store).Watched [] := by
  refine ⟨exclusive_free attempts store, fun {attempt cycle} h => ?_,
    fun {attempt cycle} h => ?_, fun _ _ => List.not_mem_nil⟩ <;>
    · rw [phase_free] at h
      cases h

/-- Events only add to the cursor. -/
theorem Moves.cursor_le {settings : Nat → Setting Store} {gate next : Gate Store} {event : Event}
    (hmoves : gate.Moves settings event next)
    (hcontended : ∀ attempt, (settings attempt).registry.Contended)
    {log : List (Nat × Dispatch)} (h : gate.Watched log) :
    gate.state.cursor ≤ next.state.cursor := by
  cases hmoves with
  | turnedAway => exact UInt64.le_refl _
  | failed => exact UInt64.le_refl _
  | entered => exact UInt64.le_refl _
  | worked => exact UInt64.le_refl _
  | expired => exact UInt64.le_refl _
  | @finished attempt cycle result trace state hattempt hinside hsettled hcommit =>
    exact (Cycle.commit_cursor (hcontended attempt) (h.cursor hinside) hcommit).1

/-- Taking an attempt out, or keeping it out, keeps the watch over the
others. -/
theorem Watched.out {gate : Gate Store} {log : List (Nat × Dispatch)} (h : gate.Watched log)
    {attempt : Nat} {result : Except Error Report} {trace : Trace} {taken : Bool} {state : Store}
    (hattempt : attempt < gate.phases.length)
    (hexclusive : Exclusive { gate.withPhase attempt (.returned result trace) with taken, state })
    (hcursor : ∀ other cycle, other ≠ attempt → gate.phase other = .inside cycle →
      state.cursor = gate.state.cursor) :
    Watched log { gate.withPhase attempt (.returned result trace) with taken, state } := by
  -- only this attempt's phase has changed
  have hphase : ∀ other phase,
      (gate.withPhase attempt (.returned result trace)).phase other = phase →
      phase ≠ .returned result trace → other ≠ attempt ∧ gate.phase other = phase := by
    intro other phase hother hchanged
    have hne : other ≠ attempt := by
      rintro rfl
      rw [phase_withPhase_self _ hattempt] at hother
      exact hchanged hother.symm
    exact ⟨hne, by rwa [phase_withPhase_of_ne _ _ hne] at hother⟩
  refine ⟨hexclusive, fun {other cycle} hinside => ?_, fun {other cycle} hinside => ?_,
    fun {other} houtside => ?_⟩
  · obtain ⟨hne, hbefore⟩ := hphase other _ hinside nofun
    exact (h.cursor hbefore).trans (hcursor other cycle hne hbefore).symm
  · exact h.covered (hphase other _ hinside nofun).2
  · exact h.outside (hphase other _ houtside nofun).2

/-- Putting an attempt past the gate, or keeping it there alone, keeps the
watch if the new cycle covers what the attempt has dispatched. -/
theorem Watched.inside {gate : Gate Store} {log more : List (Nat × Dispatch)} (h : gate.Watched log)
    {attempt : Nat} {cycle : Cycle} {taken : Bool} (hattempt : attempt < gate.phases.length)
    (hexclusive : Exclusive { gate.withPhase attempt (.inside cycle) with taken })
    (halone : ∀ other another, gate.phase other = .inside another → other = attempt)
    (hcursor : cycle.cursor = gate.state.cursor)
    (hmore : ∀ entry ∈ more, entry.1 = attempt)
    (hcovered : ∀ dispatch, (attempt, dispatch) ∈ log ++ more →
      ∃ errand ∈ cycle.errands, errand.Covers dispatch.post.timestamp) :
    Watched (log ++ more) { gate.withPhase attempt (.inside cycle) with taken } := by
  have hself := phase_withPhase_self (.inside cycle) hattempt
  refine ⟨hexclusive, fun {other another} hinside => ?_,
    fun {other another} hinside dispatch hdispatch => ?_,
    fun {other} houtside dispatch hdispatch => ?_⟩
  · obtain rfl : other = attempt := (eq_or_phase_eq hinside).elim id (halone other another)
    cases hself.symm.trans hinside
    exact hcursor
  · obtain rfl : other = attempt := (eq_or_phase_eq hinside).elim id (halone other another)
    cases hself.symm.trans hinside
    exact hcovered dispatch hdispatch
  · -- the attempt itself is past the gate now, so another one is outside
    have hne : other ≠ attempt := by
      rintro rfl
      cases hself.symm.trans houtside
    rcases List.mem_append.mp hdispatch with hold | hnew
    · exact h.outside ((eq_or_phase_eq houtside).resolve_left hne) dispatch hold
    · exact hne (hmore _ hnew)

/-- Each event keeps the watch, with what it dispatches in the log. -/
theorem Watched.handle {settings : Nat → Setting Store} {gate : Gate Store}
    {log : List (Nat × Dispatch)} (h : gate.Watched log)
    (hcontended : ∀ attempt, (settings attempt).registry.Contended) (event : Event) :
    (gate.handle settings event).Watched (log ++ gate.dispatches settings event) := by
  by_cases hmoves : ∃ next, gate.Moves settings event next
  · obtain ⟨next, hmoves⟩ := hmoves
    rw [hmoves.handle_eq]
    have hexclusive := hmoves.exclusive h.exclusive
    cases hmoves with
    | turnedAway hattempt houtside htaken =>
      show Watched (log ++ []) _
      rw [List.append_nil]
      exact h.out hattempt hexclusive fun _ _ _ _ => rfl
    | failed hattempt houtside hfree hstart =>
      show Watched (log ++ []) _
      rw [List.append_nil]
      exact h.out hattempt hexclusive fun _ _ _ _ => rfl
    | @entered attempt cycle hattempt houtside hfree hstart =>
      -- Whoever was outside has dispatched nothing yet.
      refine h.inside hattempt hexclusive (fun other another hother => ?_)
        (Cycle.start_cursor (hcontended attempt) hstart) (fun _ => nofun) fun dispatch hmem => ?_
      · rw [h.exclusive.taken_of_inside hother] at hfree
        cases hfree
      · rcases List.mem_append.mp hmem with hold | hnew
        · exact absurd hold (h.outside houtside dispatch)
        · cases hnew
    | @worked attempt position step cycle after hattempt hinside hstep =>
      obtain ⟨errand, following, trace, herrand, hmade, rfl⟩ := Cycle.step_eq_some_iff.mp hstep
      refine h.inside hattempt hexclusive
        (fun other another hother => h.exclusive.eq_of_inside hother hinside)
        (show cycle.cursor = gate.state.cursor from h.cursor hinside)
        (fun entry hentry => ?_) fun dispatch hmem => ?_
      · simp only [dispatches, hinside, herrand] at hentry
        obtain ⟨dispatch, -, rfl⟩ := List.mem_map.mp hentry
        rfl
      · -- Older dispatches stay covered; those of the step are covered by it.
        rcases List.mem_append.mp hmem with hold | hnew
        · obtain ⟨other, hother, hcovers⟩ := h.covered hinside hold
          rcases mem_set_or_eq herrand hother _ with hstays | rfl
          · exact ⟨other, hstays, hcovers⟩
          · refine ⟨following, List.mem_iff_getElem?.mpr ⟨position, ?_⟩, hmade.covers hcovers⟩
            exact List.getElem?_set_self (List.getElem?_eq_some_iff.mp herrand).1
        · simp only [dispatches, hinside, herrand] at hnew
          obtain ⟨found, hfound, heq⟩ := List.mem_map.mp hnew
          obtain ⟨-, rfl⟩ := Prod.mk.inj heq
          refine ⟨following, List.mem_iff_getElem?.mpr ⟨position, ?_⟩,
            (hmade.covers_dispatch hfound).2⟩
          exact List.getElem?_set_self (List.getElem?_eq_some_iff.mp herrand).1
    | expired hattempt hinside =>
      show Watched (log ++ []) _
      rw [List.append_nil]
      exact h.out hattempt hexclusive fun _ _ _ _ => rfl
    | @finished attempt cycle result trace state hattempt hinside hsettled hcommit =>
      show Watched (log ++ []) _
      rw [List.append_nil]
      exact h.out hattempt hexclusive fun other another hne hother =>
        absurd hother (h.exclusive.phase_ne hinside hne another)
  · have hidle := not_exists.mp hmoves
    rwa [handle_eq_self hidle, dispatches_eq_nil hidle, List.append_nil]

/-- **The run invariant**: the watch is kept along any run, over the log of all
that it dispatches. -/
theorem Watched.after {settings : Nat → Setting Store} {gate : Gate Store}
    {log : List (Nat × Dispatch)} (h : gate.Watched log)
    (hcontended : ∀ attempt, (settings attempt).registry.Contended) (events : List Event) :
    (gate.after settings events).Watched (log ++ gate.log settings events) := by
  -- the log of the rest goes behind the log so far
  induction events generalizing gate log with
  | nil =>
    show gate.Watched (log ++ [])
    rwa [List.append_nil]
  | cons event events ih =>
    rw [after_cons, Gate.log, ← List.append_assoc]
    exact ih (h.handle hcontended event)

/-- One event never takes the cursor back. -/
theorem Watched.cursor_le_handle {settings : Nat → Setting Store} {gate : Gate Store}
    {log : List (Nat × Dispatch)} (h : gate.Watched log)
    (hcontended : ∀ attempt, (settings attempt).registry.Contended) (event : Event) :
    gate.state.cursor ≤ (gate.handle settings event).state.cursor := by
  rcases handle_eq_or_moves settings gate event with hsame | hmoves
  · rw [hsame]
    exact UInt64.le_refl _
  · exact hmoves.cursor_le hcontended h

/-- The cursor never goes back. -/
theorem Watched.cursor_le_after {settings : Nat → Setting Store} {gate : Gate Store}
    {log : List (Nat × Dispatch)} (h : gate.Watched log)
    (hcontended : ∀ attempt, (settings attempt).registry.Contended) (events : List Event) :
    gate.state.cursor ≤ (gate.after settings events).state.cursor := by
  induction events generalizing gate log with
  | nil => exact UInt64.le_refl _
  | cons event events ih =>
    exact UInt64.le_trans (h.cursor_le_handle hcontended event) (ih (h.handle hcontended event))

/-- Whatever a run dispatches is newer than the cursor at its beginning. -/
theorem Watched.cursor_lt_of_mem_log {settings : Nat → Setting Store} {gate : Gate Store}
    {log : List (Nat × Dispatch)} (h : gate.Watched log)
    (hcontended : ∀ attempt, (settings attempt).registry.Contended) {events : List Event}
    {attempt : Nat} {dispatch : Dispatch} (hmem : (attempt, dispatch) ∈ gate.log settings events) :
    gate.state.cursor < dispatch.post.timestamp := by
  induction events generalizing gate log with
  | nil => cases hmem
  | cons event events ih =>
    -- now the cycle began at this cursor; later the cursor is no earlier
    rcases List.mem_append.mp hmem with hnow | hlater
    · obtain ⟨position, step, cycle, errand, after, trace, rfl, hinside, -, hmoves, hdispatch⟩ :=
        mem_dispatches hnow
      rw [← h.cursor hinside]
      exact (hmoves.covers_dispatch hdispatch).1
    · exact UInt64.lt_of_le_of_lt (h.cursor_le_handle hcontended event)
        (ih (h.handle hcontended event) hlater)

/-- A cycle that comes to report leaves the cursor where the report says. -/
theorem Watched.report {settings : Nat → Setting Store} {gate : Gate Store}
    {log : List (Nat × Dispatch)} (h : gate.Watched log)
    (hcontended : ∀ attempt, (settings attempt).registry.Contended) {event : Event}
    {attempt : Nat} {cycle : Cycle} {report : Report} {trace : Trace}
    (hinside : gate.phase attempt = .inside cycle)
    (hreport : (gate.handle settings event).phase attempt = .returned (.ok report) trace) :
    (gate.handle settings event).state.cursor = report.cursorAfter ∧
      report.cursorBefore = cycle.cursor ∧ cycle.isSettled = true ∧
      cycle.newest ≤ report.cursorAfter := by
  have hmoves : gate.Moves settings event (gate.handle settings event) := by
    refine (handle_eq_or_moves settings gate event).resolve_left fun hsame => ?_
    rw [hsame, hinside] at hreport
    cases hreport
  generalize gate.handle settings event = next at hreport hmoves
  -- nobody else can have changed the phase of the attempt
  have hother : ∀ {other phase}, other < gate.phases.length → phase ≠ .returned (.ok report) trace →
      (gate.withPhase other phase).phase attempt ≠ .returned (.ok report) trace := by
    intro other phase hbound hphase heq
    by_cases hsame : attempt = other
    · subst hsame
      rw [phase_withPhase_self _ hbound] at heq
      exact hphase heq
    · rw [phase_withPhase_of_ne _ _ hsame, hinside] at heq
      cases heq
  -- a report comes of one event only, and the attempt that it concerns is this one
  cases hmoves with
  | turnedAway hattempt => exact absurd hreport (hother hattempt nofun)
  | failed hattempt => exact absurd hreport (hother hattempt nofun)
  | entered hattempt => exact absurd hreport (hother hattempt nofun)
  | worked hattempt => exact absurd hreport (hother hattempt nofun)
  | expired hattempt => exact absurd hreport (hother hattempt nofun)
  | @finished other another result more state hattempt hthere hsettled hcommit =>
    obtain rfl : attempt = other := h.exclusive.eq_of_inside hinside hthere
    cases hinside.symm.trans hthere
    have hphase := phase_withPhase_self (.returned result more) hattempt
    cases hphase.symm.trans hreport
    obtain ⟨-, hafter⟩ := Cycle.commit_cursor (hcontended attempt) (h.cursor hinside) hcommit
    obtain ⟨hcursor, hbefore, hnewest⟩ := hafter report rfl
    exact ⟨hcursor, hbefore, hsettled, hnewest⟩

end Gate

/-! ## §5. At most once. -/

/-- Along any run of attempts at cycles over one store, of which any question
may fail and die and whose cursor others may move before a cycle does, with
the log telling which post each send is of: the cursor never goes back; a
cycle that reports leaves it where the report says, no earlier than it was;
and unless an errand of that cycle died, at or behind every post of which the
cycle dispatched a file, so that all later dispatches are of newer posts. -/
theorem dispatched_at_most_once {settings : Nat → Setting Store}
    (hcontended : ∀ attempt, (settings attempt).registry.Contended) (attempts : Nat)
    (store : Store) (events : List Event) :
    (∀ attempt, (((Gate.free attempts store).after settings events).phase attempt).sends =
      Gate.sendsOf attempt ((Gate.free attempts store).log settings events)) ∧
    (∀ more : List Event, ((Gate.free attempts store).after settings events).state.cursor ≤
      ((Gate.free attempts store).after settings (events ++ more)).state.cursor) ∧
    ∀ attempt cycle event report trace,
      ((Gate.free attempts store).after settings events).phase attempt = .inside cycle →
      ((Gate.free attempts store).after settings (events ++ [event])).phase attempt =
        .returned (.ok report) trace →
      ((Gate.free attempts store).after settings (events ++ [event])).state.cursor =
        report.cursorAfter ∧
      report.cursorBefore ≤ report.cursorAfter ∧
      ((∀ errand ∈ cycle.errands, errand.stage ≠ .dead) →
        ∀ dispatch, (attempt, dispatch) ∈ (Gate.free attempts store).log settings events →
          dispatch.post.timestamp ≤ report.cursorAfter ∧
          ∀ more other later,
            (other, later) ∈ ((Gate.free attempts store).after settings (events ++ [event])).log
              settings more →
            dispatch.post.timestamp < later.post.timestamp) := by
  have hwatched := (Gate.watched_free attempts store).after hcontended events
  rw [List.nil_append] at hwatched
  refine ⟨fun attempt => ?_, fun more => ?_,
    fun attempt cycle event report trace hinside hreport => ?_⟩
  · rw [Gate.sends_after, Gate.phase_free]
    rfl
  · rw [Gate.after_append]
    exact hwatched.cursor_le_after hcontended more
  · -- What the attempt dispatched, its cycle covers and has seen before the report.
    rw [Gate.after_append, Gate.after_cons, Gate.after_nil] at hreport ⊢
    obtain ⟨hcursor, hbefore, hsettled, hnewest⟩ := hwatched.report hcontended hinside hreport
    refine ⟨hcursor, ?_, fun hlives dispatch hdispatch => ?_⟩
    · rw [hbefore]
      exact UInt64.le_trans (le_foldl_max (fun tally : Tally => tally.newest) cycle.tallies
        cycle.cursor).1 hnewest
    · obtain ⟨errand, herrand, hcovers⟩ := hwatched.covered hinside hdispatch
      have hseen := UInt64.le_trans
        (Cycle.le_newest_of_covers hsettled hlives herrand hcovers) hnewest
      refine ⟨hseen, fun more other later hlater => ?_⟩
      have hnewer := (hwatched.handle hcontended event).cursor_lt_of_mem_log hcontended hlater
      rw [hcursor] at hnewer
      exact UInt64.lt_of_le_of_lt hseen hnewer

/-- The steps of a cycle that sends the one file there is, up to its end. -/
def oneRun : List Event :=
  [.enter 0, .work 0 0 .list, .work 0 0 .listed, .work 0 0 (.lookup 0), .work 0 0 .fetch,
    .work 0 0 (.fetched 0)]

/-- The cycle after these steps. -/
def oneCycle : Cycle where
  cursor := 2
  width := 1
  errands := [⟨"b", oneFan.subscriptions,
    .reported ⟨3, false, 1, 0, [⟨[⟨1, 50⟩], "/7.png", "7"⟩]⟩⟩]
  trace := ⟨[.list "b", .lookup 1, .fetch "b" "7"], [⟨[⟨1, 50⟩], "/7.png", "7"⟩]⟩

/-- One file is sent once: whatever is dispatched after the report is of a
newer post. -/
theorem oneFile_dispatched_once :
    (0, ⟨"b", "7", ⟨"", 3, [⟨"a.png", "/7.png", 1⟩]⟩, ⟨[⟨1, 50⟩], "/7.png", "7"⟩⟩) ∈
      (Gate.free 2 oneFan).log (fun _ => oneFile.setting) oneRun ∧
    ∀ more other later, (other, later) ∈ ((Gate.free 2 oneFan).after (fun _ => oneFile.setting)
      (oneRun ++ [.finish 0])).log (fun _ => oneFile.setting) more → 3 < later.post.timestamp := by
  have hcontended : ∀ attempt : Nat,
      ((fun _ => oneFile.setting : Nat → Setting Store) attempt).registry.Contended :=
    fun _ => oneFile.registry_contended
  have hmem : (0, ⟨"b", "7", ⟨"", 3, [⟨"a.png", "/7.png", 1⟩]⟩, ⟨[⟨1, 50⟩], "/7.png", "7"⟩⟩) ∈
      (Gate.free 2 oneFan).log (fun _ => oneFile.setting) oneRun := by
    decide +kernel
  have hinside : ((Gate.free 2 oneFan).after (fun _ => oneFile.setting) oneRun).phase 0 =
      .inside oneCycle := by
    decide +kernel
  have hreport : ((Gate.free 2 oneFan).after (fun _ => oneFile.setting)
      (oneRun ++ [.finish 0])).phase 0 = .returned (.ok (oneCycle.report 3))
        (oneCycle.trace.append (.call (.advance 3))) := by
    decide +kernel
  have hall := dispatched_at_most_once hcontended 2 oneFan oneRun
  obtain ⟨-, -, honce⟩ := hall.2.2 0 oneCycle (.finish 0) _ _ hinside hreport
  exact ⟨hmem, (honce (by decide) _ hmem).2⟩

end BoardRelay.Crawl
