/-
  BoardRelay.Proofs.Crawl.Again
  ────────────────────────────────
  Two cycles in a row.  The second one begins where the first one left the
  one cursor there is, whatever failed in the first.  Of each thread that
  comes back to it, it dispatches every file that anyone takes of the posts
  that are newer than that, and no other (`next_cycle_dispatches`): a post
  that a failed question has kept from the first cycle is made up for unless
  another board or thread has moved the cursor past it.
-/
import BoardRelay.Proofs.Crawl.Asked
import BoardRelay.Proofs.Crawl.Cursor
import BoardRelay.Proofs.Crawl.Origin

namespace BoardRelay.Crawl

variable {σ : Type}

/-! ## §1. Threads that come back. -/

/-- A thread that has come back for a job. -/
structure Arrival where
  board : String
  job : Job
  posts : Posts
  deriving Repr, DecidableEq

/-- The thread that a step of an errand brings, if it brings one. -/
def Errand.arrivals (site : Site) (errand : Errand) : Step → List Arrival
  | .fetched number =>
    match errand.stage with
    | .fetching _ running _ =>
      match running.find? fun job => job.number = number with
      | some job =>
        match site.posts errand.board job.thread with
        | .answer posts => [⟨errand.board, job, posts⟩]
        | _ => []
      | none => []
    | _ => []
  | _ => []

/-- What is dispatched is dispatched of threads that come back. -/
theorem Errand.dispatches_eq (site : Site) (cursor : UInt64) (errand : Errand) (step : Step) :
    errand.dispatches site cursor step = (errand.arrivals site step).flatMap fun arrival =>
      dispatchesOf site.resource cursor arrival.board arrival.job arrival.posts := by
  obtain ⟨board, subscriptions, stage⟩ := errand
  cases step with
  | fetched number =>
    cases stage with
    | fetching queued running tally =>
      simp only [dispatches, arrivals]
      -- a fetch that is not on its way arrives nowhere
      cases running.find? fun job => job.number = number with
      | none => rfl
      | some job =>
        dsimp only
        cases site.posts board job.thread with
        | answer posts => exact (List.flatMap_singleton _ _).symm
        | failure => rfl
        | collapse => rfl
    | _ => rfl
  | _ => rfl

/-- An arrival is the answer that the board gives to a fetch on its way. -/
theorem Errand.of_mem_arrivals {site : Site} {errand : Errand} {step : Step} {arrival : Arrival}
    (h : arrival ∈ errand.arrivals site step) :
    arrival.board = errand.board ∧
      site.posts errand.board arrival.job.thread = .answer arrival.posts ∧
      ∃ queued running tally, errand.stage = .fetching queued running tally ∧
        arrival.job ∈ running := by
  obtain ⟨board, subscriptions, stage⟩ := errand
  cases step with
  | fetched number =>
    cases stage with
    | fetching queued running tally =>
      -- only a fetch that is on its way, and that the site answers, makes an arrival
      simp only [arrivals] at h
      split at h
      · next job hjob =>
        split at h
        · next posts hposts =>
          cases List.mem_singleton.mp h
          exact ⟨rfl, hposts, queued, running, tally, rfl, List.mem_of_find?_eq_some hjob⟩
        · cases h
      · cases h
    | waiting => cases h
    | listing => cases h
    | looking found missing users => cases h
    | reported tally => cases h
    | dead => cases h
  | list => cases h
  | listed => cases h
  | lookup position => cases h
  | fetch => cases h

namespace Gate

/-- The threads that an event brings, with the attempt that it concerns. -/
def arrivals (settings : Nat → Setting σ) (gate : Gate σ) : Event → List (Nat × Arrival)
  | .work attempt position step =>
    match gate.phase attempt with
    | .inside cycle =>
      match cycle.errands[position]? with
      | some errand =>
        (errand.arrivals (settings attempt).site step).map fun arrival => (attempt, arrival)
      | none => []
    | _ => []
  | _ => []

/-- The threads that come back in a run, in order. -/
def arrived (settings : Nat → Setting σ) : List Event → Gate σ → List (Nat × Arrival)
  | [], _ => []
  | event :: events, gate =>
    gate.arrivals settings event ++ arrived settings events (gate.handle settings event)

/-- A thread that comes back does so at one moment of the run. -/
theorem exists_of_mem_arrived {settings : Nat → Setting σ} {events : List Event} {gate : Gate σ}
    {entry : Nat × Arrival} (h : entry ∈ gate.arrived settings events) :
    ∃ before event rest, events = before ++ event :: rest ∧
      entry ∈ (gate.after settings before).arrivals settings event := by
  induction events generalizing gate with
  | nil => cases h
  | cons first events ih =>
    rcases List.mem_append.mp h with hnow | hlater
    · exact ⟨[], first, events, rfl, hnow⟩
    · obtain ⟨before, event, rest, rfl, hentry⟩ := ih hlater
      exact ⟨first :: before, event, rest, rfl, hentry⟩

theorem log_append (settings : Nat → Setting σ) (events more : List Event) (gate : Gate σ) :
    gate.log settings (events ++ more) =
      gate.log settings events ++ (gate.after settings events).log settings more := by
  induction events generalizing gate with
  | nil => rfl
  | cons event events ih =>
    rw [List.cons_append, log, log, ih, after_cons, List.append_assoc]

/-- A thread comes back to an errand of a cycle past the gate, which dispatches
what it has to be sent. -/
theorem exists_of_mem_arrivals {settings : Nat → Setting σ} {gate : Gate σ} {event : Event}
    {attempt : Nat} {arrival : Arrival} (h : (attempt, arrival) ∈ gate.arrivals settings event) :
    ∃ cycle, gate.phase attempt = .inside cycle ∧ ∃ errand ∈ cycle.errands, ∃ step,
      arrival ∈ errand.arrivals (settings attempt).site step ∧
      ∀ dispatch ∈ dispatchesOf (settings attempt).site.resource cycle.cursor arrival.board
        arrival.job arrival.posts, (attempt, dispatch) ∈ gate.dispatches settings event := by
  cases event with
  | work other position step =>
    simp only [arrivals] at h
    split at h
    · next cycle hinside =>
      split at h
      · next errand herrand =>
        obtain ⟨found, hfound, heq⟩ := List.mem_map.mp h
        cases heq
        refine ⟨cycle, hinside, errand, List.mem_of_getElem? herrand, step, hfound,
          fun dispatch hdispatch => ?_⟩
        simp only [dispatches, hinside, herrand]
        refine List.mem_map_of_mem ?_
        rw [Errand.dispatches_eq]
        exact List.mem_flatMap.mpr ⟨_, hfound, hdispatch⟩
      · cases h
    · cases h
  | enter other => cases h
  | expire other => cases h
  | finish other => cases h

end Gate

/-! ## §2. What comes back to a cycle over a store. -/

/-- In a single attempt over a store, a thread that comes back is a listed one,
and is for those who are owed its files. -/
theorem Gate.exists_of_mem_arrived_of_reads {setting : Setting Store} {store : Store}
    (hreads : setting.registry.Reads store store) {events : List Event} {arrival : Arrival}
    (h : (0, arrival) ∈ (Gate.free 1 store).arrived (fun _ => setting) events) :
    ∃ thread ∈ setting.site.threads arrival.board, arrival.job.thread = thread.number ∧
      setting.site.posts arrival.board thread.number = .answer arrival.posts ∧
      (∀ name, receivers arrival.job.interests name =
        owedTo store (setting.registry.answers store) arrival.board thread.comment name) ∧
      ∀ dispatch ∈ dispatchesOf setting.site.resource store.cursor arrival.board arrival.job
        arrival.posts, (0, dispatch) ∈ (Gate.free 1 store).log (fun _ => setting) events := by
  have hstart := Cycle.start_eq hreads setting.limits.maxConcurrent
  obtain ⟨before, event, rest, rfl, hentry⟩ := exists_of_mem_arrived h
  obtain ⟨cycle, hinside, errand, herrand, step, hstep, hdispatched⟩ :=
    exists_of_mem_arrivals hentry
  -- until then the cycle has gone some steps over the store as it was, and what holds of each
  -- errand at the opening and is kept by its moves holds of the errand that gets the thread
  obtain ⟨steps, rfl, -⟩ := (walks_after hstart true fun _ _ _ => rfl).eq_inside hinside
  have hkept : ∀ errand ∈ ((Cycle.opening store setting.limits.maxConcurrent).follow setting.site
      setting.registry store steps).errands,
      errand.Sourced setting.site (fun s found => found = setting.registry.known store s.id) ∧
        errand.subscriptions = store.subscriptions.filter fun s => s.board = errand.board := by
    refine Cycle.follow_keeps (P := fun errand =>
      errand.Sourced setting.site (fun s found => found = setting.registry.known store s.id) ∧
        errand.subscriptions = store.subscriptions.filter fun s => s.board = errand.board)
      (fun hmoves hkept => ?_) (fun errand hmem => ?_) steps
    · obtain ⟨hboard, hsubscriptions⟩ := hmoves.board_eq
      refine ⟨hmoves.sourced hkept.1 fun _ _ _ _ => rfl, ?_⟩
      rw [hboard, hsubscriptions]
      exact hkept.2
    · obtain ⟨board, -, rfl⟩ := List.mem_map.mp hmem
      exact ⟨trivial, rfl⟩
  obtain ⟨hsourced, hsubscriptions⟩ := hkept errand herrand
  obtain ⟨hboard, hposts, queued, running, tally, hstage, hjob⟩ := Errand.of_mem_arrivals hstep
  obtain ⟨listing, hlisting, thread, hthread, hnumber, hinterests⟩ :=
    Errand.exists_thread hstage hsourced hjob
  rw [hboard]
  refine ⟨thread, ?_, hnumber, hnumber ▸ hposts, fun name => ?_, fun dispatch hdispatch => ?_⟩
  · rw [Site.threads, hlisting]
    exact hthread
  · rw [hinterests, hsubscriptions]
    exact receivers_wants_eq_owedTo store hreads.known_eq _ _ _
  · rw [log_append, log]
    refine List.mem_append_right _ (List.mem_append_left _ (hdispatched dispatch ?_))
    rw [hboard]
    rwa [Cycle.cursor_follow]

/-- A single attempt that comes to report leaves the cursor where the report
says, and began at the cursor of the store. -/
theorem Gate.report_of_reads {setting : Setting Store} {store : Store}
    (hcontended : setting.registry.Contended) (hreads : setting.registry.Reads store store)
    {events : List Event} {report : Report} {trace : Trace}
    (h : ((Gate.free 1 store).after (fun _ => setting) events).phase 0 =
      .returned (.ok report) trace) :
    ((Gate.free 1 store).after (fun _ => setting) events).state.cursor = report.cursorAfter ∧
      report.cursorBefore = store.cursor := by
  have hwalks : ((Gate.free 1 store).after (fun _ => setting) events).Walks setting store _ true :=
    walks_after (Cycle.start_eq hreads setting.limits.maxConcurrent) true fun _ _ _ => rfl
  generalize (Gate.free 1 store).after (fun _ => setting) events = gate at h hwalks
  -- only a cycle that came to its end has returned with a report
  cases hwalks with
  | outside => cases h
  | inside => cases h
  | @returned steps result trace last hsettled hcommit =>
    cases h
    have hcursor := Cycle.cursor_follow setting.site setting.registry store steps
      (Cycle.opening store setting.limits.maxConcurrent)
    obtain ⟨-, hreport⟩ := Cycle.commit_cursor hcontended hcursor hcommit
    obtain ⟨hafter, hbefore, -⟩ := hreport report rfl
    exact ⟨hafter, hbefore.trans hcursor⟩
  | givenUp => cases h

/-! ## §3. The next cycle. -/

/-- Two cycles over one store, of which anything but the cursor may change in
between, and both of which come to report, whatever fails and whoever dies in
either.  The second begins where the first left the cursor; and of each thread
that comes back to it, it dispatches a file that anyone takes exactly if its
post is newer than that. -/
theorem next_cycle_dispatches {earlier later : Setting Store} {store next : Store}
    (hearlier : earlier.registry.Contended) (hlater : later.registry.Contended)
    (hreads : earlier.registry.Reads store store) (hnext : later.registry.Reads next next)
    {events more : List Event} {report second : Report} {trace rest : Trace}
    (hfirst : ((Gate.free 1 store).after (fun _ => earlier) events).phase 0 =
      .returned (.ok report) trace)
    (hcursor : next.cursor =
      ((Gate.free 1 store).after (fun _ => earlier) events).state.cursor)
    (hsecond : ((Gate.free 1 next).after (fun _ => later) more).phase 0 =
      .returned (.ok second) rest) :
    second.cursorBefore = report.cursorAfter ∧
    ∀ arrival, (0, arrival) ∈ (Gate.free 1 next).arrived (fun _ => later) more →
      ∃ thread ∈ later.site.threads arrival.board, arrival.job.thread = thread.number ∧
        later.site.posts arrival.board thread.number = .answer arrival.posts ∧
        ∀ post ∈ arrival.posts.posts, ∀ file ∈ post.files,
          let users := owedTo next (later.registry.answers next) arrival.board thread.comment
            file.name
          users ≠ [] →
            ((0, ⟨arrival.board, thread.number, post,
                ⟨users, later.site.resource file.path, thread.number⟩⟩) ∈
              (Gate.free 1 next).log (fun _ => later) more ↔
            report.cursorAfter < post.timestamp) := by
  obtain ⟨hafter, -⟩ := Gate.report_of_reads hearlier hreads hfirst
  obtain ⟨-, hbefore⟩ := Gate.report_of_reads hlater hnext hsecond
  rw [hafter] at hcursor
  refine ⟨hbefore.trans hcursor, fun arrival harrival => ?_⟩
  obtain ⟨thread, hthread, hnumber, hposts, howed, hdispatched⟩ :=
    Gate.exists_of_mem_arrived_of_reads hnext harrival
  refine ⟨thread, hthread, hnumber, hposts, fun post hpost file hfile => ?_⟩
  intro users husers
  -- the receivers are named, or rewriting them would unfold the store
  have hfound : owedTo next (later.registry.answers next) arrival.board thread.comment file.name =
      users := rfl
  clear_value users
  rw [← hcursor]
  constructor
  · -- whatever is dispatched is newer than the cursor that the cycle began at
    intro hlogged
    exact (Gate.watched_free 1 next).cursor_lt_of_mem_log (fun _ => hlater) hlogged
  · intro hnewer
    have hsend : sendOf? later.site.resource arrival.job file =
        some ⟨users, later.site.resource file.path, thread.number⟩ := by
      rw [sendOf?, howed file.name, hfound, hnumber]
      cases users with
      | nil => exact absurd rfl husers
      | cons user others => rfl
    refine hdispatched _ (List.mem_flatMap.mpr ⟨post, ?_, ?_⟩)
    · exact List.mem_filter.mpr ⟨hpost, decide_eq_true hnewer⟩
    · exact List.mem_map.mpr ⟨_, List.mem_filterMap.mpr ⟨file, hfile, hsend⟩, by rw [hnumber]⟩

/-! ## §4. A post that is made up for, and one that is not. -/

/-- Two threads for one subscription, the first of which cannot be fetched. -/
def oneFails : Script :=
  { oneFile with
    boards := [("b", ⟨5, .answer ⟨"b", [⟨"7", "cats", "", 0, 1⟩, ⟨"8", "cats", "", 0, 1⟩]⟩⟩)]
    threads := [("b/8", ⟨5, .answer ⟨[⟨"", 9, [⟨"b.png", "/8.png", 1⟩]⟩]⟩⟩)] }

/-- The same board when the first thread can be fetched again: one of its posts
is older than that of the second, one newer. -/
def bothAnswer : Script :=
  { oneFails with
    threads := ("b/7", ⟨5, .answer ⟨[⟨"", 3, [⟨"a.png", "/7.png", 1⟩]⟩,
      ⟨"", 12, [⟨"c.png", "/9.png", 1⟩]⟩]⟩⟩) :: oneFails.threads }

/-- The steps of a cycle with two threads, up to its end. -/
def twoThreads : List Event :=
  [.enter 0, .work 0 0 .list, .work 0 0 .listed, .work 0 0 (.lookup 0), .work 0 0 .fetch,
    .work 0 0 (.fetched 0), .work 0 0 .fetch, .work 0 0 (.fetched 1), .finish 0]

/-- The store that the first of two such cycles leaves. -/
def oneFanLater : Store :=
  { oneFan with cursor := 9 }

/-- How the first cycle ends. -/
def failedOnce : Report :=
  ⟨1, 0, 2, 1, 2, 9, [⟨[⟨1, 50⟩], "/8.png", "8"⟩]⟩

/-- How the second cycle ends. -/
def madeUpFor : Report :=
  ⟨1, 0, 2, 0, 9, 12, [⟨[⟨1, 50⟩], "/9.png", "7"⟩]⟩

/-- The thread that failed, as it comes back to the second cycle. -/
def backAgain : Arrival :=
  ⟨"b", ⟨0, "7", [⟨⟨1, 50⟩, ⟨true, false, false⟩⟩]⟩,
    ⟨[⟨"", 3, [⟨"a.png", "/7.png", 1⟩]⟩, ⟨"", 12, [⟨"c.png", "/9.png", 1⟩]⟩]⟩⟩

/-- In the first cycle the fetch of one thread fails; the file of the other is
sent and the cursor moves past it. -/
theorem oneFails_returned :
    ((Gate.free 1 oneFan).after (fun _ => oneFails.setting) twoThreads).phase 0 =
      .returned (.ok failedOnce) ⟨[.list "b", .lookup 1, .fetch "b" "7", .fetch "b" "8",
        .advance 9], failedOnce.sends⟩ := by
  decide +kernel

/-- In the cycle after it both threads answer. -/
theorem bothAnswer_returned :
    ((Gate.free 1 oneFanLater).after (fun _ => bothAnswer.setting) twoThreads).phase 0 =
      .returned (.ok madeUpFor) ⟨[.list "b", .lookup 1, .fetch "b" "7", .fetch "b" "8",
        .advance 12], madeUpFor.sends⟩ := by
  decide +kernel

theorem newer_post_made_up_for :
    oneFails.site.posts "b" "7" = .failure ∧
    (0, ⟨"b", "7", ⟨"", 12, [⟨"c.png", "/9.png", 1⟩]⟩, ⟨[⟨1, 50⟩], "/9.png", "7"⟩⟩) ∈
      (Gate.free 1 oneFanLater).log (fun _ => bothAnswer.setting) twoThreads := by
  -- the cursor of the second cycle is where the first one has left it
  have hcursor : oneFanLater.cursor =
      ((Gate.free 1 oneFan).after (fun _ => oneFails.setting) twoThreads).state.cursor := by
    decide +kernel
  have hback : (0, backAgain) ∈
      (Gate.free 1 oneFanLater).arrived (fun _ => bothAnswer.setting) twoThreads := by
    decide +kernel
  obtain ⟨-, hall⟩ := next_cycle_dispatches oneFails.registry_contended
    bothAnswer.registry_contended (Script.registry_reads rfl rfl oneFan)
    (Script.registry_reads rfl rfl oneFanLater) oneFails_returned hcursor bothAnswer_returned
  obtain ⟨thread, hthread, hnumber, -, hfiles⟩ := hall backAgain hback
  -- the board lists one thread of that number
  have honly : thread = ⟨"7", "cats", "", 0, 1⟩ := by
    have hlisted : thread ∈ [⟨"7", "cats", "", 0, 1⟩, ⟨"8", "cats", "", 0, 1⟩] := hthread
    rcases List.mem_cons.mp hlisted with heq | hother
    · exact heq
    · rw [List.mem_singleton.mp hother] at hnumber
      exact absurd hnumber (by decide)
  subst honly
  have howed : owedTo oneFanLater (bothAnswer.setting.registry.answers oneFanLater) "b" "cats"
      "c.png" = [⟨1, 50⟩] := by
    decide +kernel
  have hpost := hfiles ⟨"", 12, [⟨"c.png", "/9.png", 1⟩]⟩ (by decide) ⟨"c.png", "/9.png", 1⟩
    (by decide)
  have hresource : bothAnswer.setting.site.resource "/9.png" = "/9.png" := by
    decide +kernel
  dsimp only at hpost
  rw [show backAgain.board = "b" from rfl, howed, hresource] at hpost
  exact ⟨rfl, (hpost (by decide)).mpr (by decide)⟩

/-- A post of the thread that failed, newer than the cursor was before the
first cycle, but older than what the cursor was moved to: the second cycle gets
the thread with the post, for whose file there is a taker, and does not
dispatch it. -/
theorem older_post_skipped :
    let first := (Gate.free 1 oneFan).after (fun _ => oneFails.setting) twoThreads
    let second := (Gate.free 1 first.state).after (fun _ => bothAnswer.setting) twoThreads
    let post : Post := ⟨"", 3, [⟨"a.png", "/7.png", 1⟩]⟩
    oneFails.site.posts "b" "7" = .failure ∧
    (∃ trace, first.phase 0 = .returned (.ok failedOnce) trace) ∧
    failedOnce.threadFailures = 1 ∧ failedOnce.cursorBefore < post.timestamp ∧
    (∃ trace, second.phase 0 = .returned (.ok madeUpFor) trace) ∧
    (0, backAgain) ∈ (Gate.free 1 first.state).arrived (fun _ => bothAnswer.setting) twoThreads ∧
    backAgain.job.thread = "7" ∧ post ∈ backAgain.posts.posts ∧
    receivers backAgain.job.interests "a.png" = [⟨1, 50⟩] ∧
    ∀ entry ∈ (Gate.free 1 first.state).log (fun _ => bothAnswer.setting) twoThreads,
      entry.2.post ≠ post := by
  have hfirst : ((Gate.free 1 oneFan).after (fun _ => oneFails.setting) twoThreads).state =
      oneFanLater := by
    decide +kernel
  intro first second post
  have hstate : first.state = oneFanLater := hfirst
  have hsecond : second = (Gate.free 1 oneFanLater).after (fun _ => bothAnswer.setting)
      twoThreads := by rw [← hstate]
  -- the rest is two runs on fixed scripts
  rw [hsecond, hstate]
  exact ⟨rfl, ⟨_, oneFails_returned⟩, rfl, by decide, ⟨_, bothAnswer_returned⟩, by decide +kernel,
    rfl, by decide, by decide, by decide +kernel⟩

end BoardRelay.Crawl
