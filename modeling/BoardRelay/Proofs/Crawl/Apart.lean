/-
  BoardRelay.Proofs.Crawl.Apart
  ────────────────────────────────
  Boards are crawled apart.  Whatever one board does, and however long it
  takes, the errands of all others ask and send the same, as long as the
  cycle stays inside its deadline; and its report counts every board once
  (`siblings_undisturbed`).
-/
import BoardRelay.Proofs.Crawl.Boards
import BoardRelay.Proofs.Crawl.Follow
import BoardRelay.Proofs.Crawl.Landing
import BoardRelay.Proofs.Crawl.Script

namespace BoardRelay.Crawl

variable {σ : Type}

/-! ## §1. Settings that differ on one board. -/

/-- Two settings that differ at most in what one board answers and when. -/
structure Setting.AgreesBut (board : String) (setting other : Setting σ) : Prop where
  site (name : String) : name ≠ board → setting.site.AgreesOn name other.site
  listing (name : String) : name ≠ board →
    other.pace.listing name = setting.pace.listing name
  posts (name thread : String) : name ≠ board →
    other.pace.posts name thread = setting.pace.posts name thread
  registry : other.registry = setting.registry
  limits : other.limits = setting.limits

/-- Two settings that differ at one board alone agree on any other. -/
theorem Setting.AgreesBut.agreesOn {board name : String} {setting other : Setting σ}
    (h : setting.AgreesBut board other) (hne : name ≠ board) : setting.AgreesOn name other :=
  ⟨h.site name hne, h.listing name hne, fun thread => h.posts name thread hne, h.registry, h.limits⟩

/-- A script in which one more board is made up. -/
def Script.withBoard (board : String) (listing : Cue Listing) (script : Script) : Script :=
  { script with boards := (board, listing) :: script.boards }

/-- A script whose cue for one board is replaced plays as before on every other
board. -/
theorem Script.agreesBut_withBoard (board : String) (listing : Cue Listing) (script : Script) :
    script.setting.AgreesBut board (script.withBoard board listing).setting := by
  have hcue : ∀ name, name ≠ board →
      cue (script.withBoard board listing).boards name = cue script.boards name := by
    intro name hne
    rw [cue, withBoard, List.lookup_cons, beq_eq_false_iff_ne.mpr hne]
    rfl
  exact ⟨fun name hne => ⟨congrArg Cue.outcome (hcue name hne), fun _ => rfl, rfl⟩,
    fun name hne => congrArg Cue.delay (hcue name hne), fun _ _ _ => rfl, rfl, rfl⟩

/-! ## §2. Cycles inside the deadline. -/

/-- Steps by which a single attempt on a clock comes to the end of its cycle,
inside the deadline. -/
structure Session.Finishes (setting : Setting σ) (state : σ) (cycle : Cycle)
    (timed : List (Nat × (Nat × Step))) : Prop where
  timely : Timely setting.limits timed
  settled : (cycle.follow setting.site setting.registry state (timed.map (·.2))).isSettled = true
  returned : (play setting 1 state).2.phase 0 = .returned
    ((cycle.follow setting.site setting.registry state (timed.map (·.2))).commit setting.registry
      state).1
    ((cycle.follow setting.site setting.registry state (timed.map (·.2))).commit setting.registry
      state).2.1

/-- Inside the deadline each errand comes to its end as it does alone. -/
theorem play_finishes {setting : Setting σ} {state : σ} {cycle : Cycle}
    (hstart : Cycle.start setting.registry setting.limits.maxConcurrent state = .ok cycle)
    (hin : (play setting 1 state).1 < setting.limits.deadline) :
    ∃ timed, Session.Finishes setting state cycle timed ∧
      cycle.EachAlone setting state (timed.map (·.2)) := by
  obtain ⟨timed, htimely, hcomes, hways⟩ := play_follows hstart
  refine ⟨timed, ?_, hways (Nat.zero_lt_of_lt hin)⟩
  cases hcomes with
  | ended hsettled hphase => exact ⟨htimely, hsettled, hphase⟩
  | givenUp hlate => exact absurd hlate (Nat.ne_of_lt hin)

/-- A cycle that is played to its end reports what its errands have counted. -/
theorem Session.Finishes.counts {setting : Setting σ} {state : σ} {cycle : Cycle}
    {timed : List (Nat × (Nat × Step))} (h : Session.Finishes setting state cycle timed)
    (hstart : Cycle.start setting.registry setting.limits.maxConcurrent state = .ok cycle)
    {subscriptions : List Subscription}
    (hsubscriptions : setting.registry.subscriptions state = .ok subscriptions) {report : Report}
    {trace : Trace} (hreturned : (play setting 1 state).2.phase 0 = .returned (.ok report) trace) :
    report.Counts setting.site subscriptions
      (cycle.follow setting.site setting.registry state (timed.map (·.2))) := by
  have hresult := h.returned.symm.trans hreturned
  injection hresult with hok
  obtain ⟨after, rfl⟩ := (Cycle.commit_sends _ _ _).2 report hok
  exact Cycle.report_counts hstart hsubscriptions h.settled after

/-- Two errands alone that do the same and are settled have asked and sent the
same, however many answers came to each. -/
theorem Seat.alone_unique {seat : Seat σ} {errand : Errand} {answers more : Nat}
    (h : (seat.alone errand answers).errand.isSettled = true)
    (hmore : (seat.alone errand more).errand.isSettled = true) :
    (seat.alone errand more).errand = (seat.alone errand answers).errand ∧
      (seat.alone errand more).trace = (seat.alone errand answers).trace := by
  rcases Nat.le_total answers more with hle | hle
  · obtain ⟨count, rfl⟩ := Nat.exists_eq_add_of_le' hle
    exact alone_of_isSettled h count
  · obtain ⟨count, rfl⟩ := Nat.exists_eq_add_of_le' hle
    obtain ⟨herrand, htrace⟩ := alone_of_isSettled hmore count
    exact ⟨herrand.symm, htrace.symm⟩

/-- In two settings that do the same for a board, its errand does the same and
comes to the same. -/
theorem Cycle.share_eq_of_agreesOn {setting other : Setting σ} {state : σ} {cycle : Cycle}
    (hwidth : cycle.width = max 1 setting.limits.maxConcurrent) {position : Nat} {errand : Errand}
    (herrand : cycle.errands[position]? = some errand)
    (hagree : setting.AgreesOn errand.board other) {steps more : List (Nat × Step)}
    (hsettled : (cycle.follow setting.site setting.registry state steps).isSettled = true)
    (hsettled' : (cycle.follow other.site other.registry state more).isSettled = true)
    (halone : cycle.EachAlone setting state steps) (halone' : cycle.EachAlone other state more) :
    cycle.share other.site other.registry state position more =
        cycle.share setting.site setting.registry state position steps ∧
      (cycle.follow other.site other.registry state more).errands[position]? =
        (cycle.follow setting.site setting.registry state steps).errands[position]? := by
  let seat := cycle.seat setting state position
  obtain ⟨answers, hway⟩ := halone position errand herrand
  obtain ⟨answers', hway'⟩ := halone' position errand herrand
  -- alone at its seat, the errand cannot tell one setting from the other
  have hsame : (cycle.seat other state position).alone errand answers' =
      seat.alone errand answers' := Seat.alone_congr seat hagree answers'
  have hfollow : errand.follow setting.site setting.registry state cycle.cursor cycle.width
      (ownSteps position steps) =
      ((seat.alone errand answers).errand, (seat.alone errand answers).trace) := by
    rw [hwidth]
    exact hway
  have hfollow' : errand.follow other.site other.registry state cycle.cursor cycle.width
      (ownSteps position more) =
      ((seat.alone errand answers').errand, (seat.alone errand answers').trace) := by
    rw [hwidth, ← hagree.limits, ← hsame]
    exact hway'
  have hlast := getElem?_follow setting.site setting.registry state herrand steps
  have hlast' := getElem?_follow other.site other.registry state herrand more
  rw [hfollow] at hlast
  rw [hfollow'] at hlast'
  -- both settle, so neither is cut short before the other
  obtain ⟨hend, htrace⟩ := Seat.alone_unique
    (List.all_eq_true.mp hsettled _ (List.mem_of_getElem? hlast))
    (List.all_eq_true.mp hsettled' _ (List.mem_of_getElem? hlast'))
  rw [share_eq herrand, share_eq herrand, hfollow, hfollow', hlast, hlast']
  exact ⟨htrace, congrArg some hend⟩

/-! ## §3. Boards do not disturb each other. -/

/-- Of two cycles that begin alike, stay inside the deadline and differ only in
what one board does and when, every other board's errand asks and sends the
same and comes to the same, also if it dies itself.  If nobody dies on its
board, it asks and sends the same in whatever order all answers come.

The questions and sends of a cycle are those of its errands.  Whoever dies, the
cycle can come to its end, and then counts each board once.  What becomes of
its sends is no part of a cycle: in whatever order they land, whoever waits for
those that it reports is left with none, and has counted all but the ones that
died. -/
theorem siblings_undisturbed {setting other : Setting σ} {state : σ} {cycle : Cycle}
    {subscriptions : List Subscription} {board : String}
    (hstart : Cycle.start setting.registry setting.limits.maxConcurrent state = .ok cycle)
    (hsubscriptions : setting.registry.subscriptions state = .ok subscriptions)
    (hdiffer : setting.AgreesBut board other)
    (hin : (play setting 1 state).1 < setting.limits.deadline)
    (hin' : (play other 1 state).1 < other.limits.deadline) :
    (∃ timed timed', Session.Finishes setting state cycle timed ∧
      Session.Finishes other state cycle timed' ∧
      (∀ position errand, cycle.errands[position]? = some errand → errand.board ≠ board →
        cycle.share other.site other.registry state position (timed'.map (·.2)) =
          cycle.share setting.site setting.registry state position (timed.map (·.2)) ∧
        (cycle.follow other.site other.registry state (timed'.map (·.2))).errands[position]? =
          (cycle.follow setting.site setting.registry state
            (timed.map (·.2))).errands[position]?) ∧
      (∀ report trace, (play setting 1 state).2.phase 0 = .returned (.ok report) trace →
        report.Counts setting.site subscriptions
          (cycle.follow setting.site setting.registry state (timed.map (·.2)))) ∧
      ∀ report trace, (play other 1 state).2.phase 0 = .returned (.ok report) trace →
        report.Counts other.site subscriptions
          (cycle.follow other.site other.registry state (timed'.map (·.2)))) ∧
    (∀ steps more, (cycle.follow setting.site setting.registry state steps).isSettled = true →
      (cycle.follow other.site other.registry state more).isSettled = true →
      ∀ position errand, cycle.errands[position]? = some errand → errand.board ≠ board →
        setting.site.LivesOn errand.board →
        (cycle.share other.site other.registry state position more).calls.Perm
            (cycle.share setting.site setting.registry state position steps).calls ∧
          (cycle.share other.site other.registry state position more).sends.Perm
            (cycle.share setting.site setting.registry state position steps).sends) ∧
    (∀ (site : Site) (steps : List (Nat × Step)),
      let last := cycle.follow site setting.registry state steps
      (∃ more, (last.follow site setting.registry state more).isSettled = true) ∧
      last.trace.calls.Perm ((List.range cycle.errands.length).flatMap fun position =>
        (cycle.share site setting.registry state position steps).calls) ∧
      last.trace.sends.Perm ((List.range cycle.errands.length).flatMap fun position =>
        (cycle.share site setting.registry state position steps).sends) ∧
      (∀ position errand tally, last.errands[position]? = some errand →
        errand.stage = .reported tally →
        tally.sends = (cycle.share site setting.registry state position steps).sends) ∧
      (last.isSettled = true → ∀ after, (last.report after).Counts site subscriptions last)) ∧
    ∀ (fate : Nat → Send → Outcome Unit) (report : Report) (steps : List Landing.Step),
      let landing := (Landing.ofReport fate report).after steps
      (∃ more, (landing.after more).waiting = []) ∧ landing.wait.waiting = [] ∧
      (landing.waiting = [] →
        landing.completed + (report.sends.mapIdx fate).count .collapse = report.sends.length) := by
  have hstart' : Cycle.start other.registry other.limits.maxConcurrent state = .ok cycle := by
    rw [hdiffer.registry, hdiffer.limits]
    exact hstart
  have hsubscriptions' : other.registry.subscriptions state = .ok subscriptions := by
    rw [hdiffer.registry]
    exact hsubscriptions
  have hwidth := Cycle.width_of_start hstart
  refine ⟨?_, ?_, ?_, ?_⟩
  · -- on the clock: each cycle takes every errand the way that it goes alone
    obtain ⟨timed, hfinishes, halone⟩ := play_finishes hstart hin
    obtain ⟨timed', hfinishes', halone'⟩ := play_finishes hstart' hin'
    refine ⟨timed, timed', hfinishes, hfinishes', ?_, ?_, ?_⟩
    · intro position errand herrand hne
      exact Cycle.share_eq_of_agreesOn hwidth herrand (hdiffer.agreesOn hne) hfinishes.settled
        hfinishes'.settled halone halone'
    · intro report trace hreturned
      exact hfinishes.counts hstart hsubscriptions hreturned
    · intro report trace hreturned
      exact hfinishes'.counts hstart' hsubscriptions' hreturned
  · -- in any order of steps: up to the order of its own calls
    intro steps more hsettled hsettled' position errand herrand hne hlives
    rw [hdiffer.registry] at hsettled' ⊢
    have hwaiting := Cycle.waiting_of_start hstart (List.mem_of_getElem? herrand)
    exact Cycle.share_perm herrand hwaiting hlives (hdiffer.site _ hne) hsettled hsettled'
  · -- on any site: a cycle is the sum of its errands, whichever of them die
    intro site steps last
    have hcalls :=
      Cycle.trace_follow site setting.registry state Trace.calls (fun _ _ => rfl) steps cycle
    have hsends :=
      Cycle.trace_follow site setting.registry state Trace.sends (fun _ _ => rfl) steps cycle
    rw [Cycle.trace_of_start hstart] at hcalls hsends
    exact ⟨Cycle.settles hstart site steps, hcalls, hsends,
      fun _ _ _ hlast htally => Cycle.sends_of_reported hstart hlast htally,
      fun hsettled after => Cycle.report_counts hstart hsubscriptions hsettled after⟩
  · -- and its deliveries are awaited one by one
    intro fate report steps landing
    exact ⟨landing.exists_after_eq_nil, landing.waiting_wait, Landing.completed_after⟩

/-- A store whose user takes files of two boards. -/
def twoBoards : Store :=
  ⟨[⟨1, 50⟩], [⟨1, "b", "\"cat\"", ".img", "", false⟩, ⟨2, "a", "\"cat\"", ".img", "", false⟩],
    [⟨1, 1⟩, ⟨1, 2⟩], 2⟩

/-- One board is down, or whoever asks for it dies of the answer; the file of
the other is sent. -/
theorem oneFile_undisturbed :
    (play oneFile.setting 1 twoBoards).1 < oneFile.limits.deadline ∧
      (Script.traceOf (play oneFile.setting 1 twoBoards).2).sends.length = 1 ∧
      (play (oneFile.withBoard "a" ⟨7, .collapse⟩).setting 1 twoBoards).1 <
        oneFile.limits.deadline ∧
      ∃ timed timed', Session.Finishes oneFile.setting twoBoards (.opening twoBoards 1) timed ∧
        Session.Finishes (oneFile.withBoard "a" ⟨7, .collapse⟩).setting twoBoards
          (.opening twoBoards 1) timed' ∧
        (Cycle.opening twoBoards 1).share (oneFile.withBoard "a" ⟨7, .collapse⟩).site
            (oneFile.withBoard "a" ⟨7, .collapse⟩).registry twoBoards 1 (timed'.map (·.2)) =
          (Cycle.opening twoBoards 1).share oneFile.site oneFile.registry twoBoards 1
            (timed.map (·.2)) := by
  have hreads : oneFile.registry.Reads twoBoards twoBoards := Script.registry_reads rfl rfl _
  have hin : (play oneFile.setting 1 twoBoards).1 < oneFile.limits.deadline := by decide +kernel
  have hin' : (play (oneFile.withBoard "a" ⟨7, .collapse⟩).setting 1 twoBoards).1 <
      oneFile.limits.deadline := by decide +kernel
  obtain ⟨⟨timed, timed', hfinishes, hfinishes', hsame, -⟩, -⟩ :=
    siblings_undisturbed (Cycle.start_eq hreads 1) hreads.subscriptions
      (Script.agreesBut_withBoard "a" ⟨7, .collapse⟩ oneFile) hin hin'
  have hsent : (Script.traceOf (play oneFile.setting 1 twoBoards).2).sends.length = 1 := by
    decide +kernel
  exact ⟨hin, hsent, hin', timed, timed', hfinishes, hfinishes',
    (hsame 1 (errandOf twoBoards.subscriptions "b") (by decide +kernel) (by decide)).1⟩

end BoardRelay.Crawl
