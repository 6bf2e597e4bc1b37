/-
  BoardRelay.Proofs.Crawl.Boards
  ────────────────────────────────
  Every board of a cycle is accounted for once.  Its errand reports that the
  board was crawled, reports that the board could not be listed, or dies of
  an answer of the board (`Errand.Told`); the report of the cycle counts the
  last two kinds as failures (`Cycle.report_boards`).  However many errands
  die, the cycle can come to its end (`Cycle.exists_settling`).
-/
import BoardRelay.Proofs.Crawl.Share

namespace BoardRelay.Crawl

variable {σ : Type}

/-! ## §1. What becomes of a board. -/

/-- Whether a board cannot be listed. -/
def Site.isDown (board : String) (site : Site) : Bool :=
  match site.listing board with
  | .failure => true
  | _ => false

namespace Errand

/-- Whether an errand reported that its board was crawled. -/
def succeeded (errand : Errand) : Bool :=
  match errand.stage with
  | .reported tally => !tally.failed
  | _ => false

/-- Whether an errand died. -/
def died (errand : Errand) : Bool :=
  match errand.stage with
  | .dead => true
  | _ => false

/-- Whether what an errand tells of its board is true of a site: it has failed
just if the board is down, and died only of an answer of the board. -/
def Told (site : Site) (errand : Errand) : Prop :=
  match errand.stage with
  | .looking _ _ _ => site.isDown errand.board = false
  | .fetching _ _ tally => site.isDown errand.board = false ∧ tally.failed = false
  | .reported tally => tally.failed = site.isDown errand.board
  | .dead => ¬ site.LivesOn errand.board
  | _ => True

section Told

variable {site : Site} {board : String} {subscriptions : List Subscription}

theorem told_fetchingOrDone (hboard : site.isDown board = false) (tally : Tally)
    (htally : tally.failed = false) (queued running : List Job) :
    Told site ⟨board, subscriptions, fetchingOrDone queued running tally⟩ := by
  rw [fetchingOrDone]
  split
  · exact htally.trans hboard.symm
  · exact ⟨hboard, htally⟩

/-- An errand whose board has answered with a listing has not told of a
failure. -/
theorem told_lookingOrFetching (hboard : site.isDown board = false) (cursor : UInt64)
    (found : List Match) (missing : List Nat) (users : Subscribers) :
    Told site
      ⟨board, subscriptions, lookingOrFetching cursor subscriptions found missing users⟩ := by
  cases missing with
  | nil =>
    rw [lookingOrFetching_nil]
    exact told_fetchingOrDone hboard _ rfl _ _
  | cons position missing => exact hboard

/-- Each step keeps an errand true. -/
theorem Moves.told {registry : Registry σ} {state : σ} {cursor : UInt64} {width : Nat}
    {errand next : Errand} {step : Step} {trace : Trace}
    (h : errand.Moves site registry state cursor width step next trace) (htold : errand.Told site) :
    next.Told site := by
  cases h with
  | list => trivial
  | listed board subscriptions =>
    -- the listing decides whether the board is down; the fetches that follow add to the tally,
    -- which does not tell of it
    cases hlisting : site.listing board with
    | answer listing =>
      have hup : site.isDown board = false := by rw [Site.isDown, hlisting]
      exact told_lookingOrFetching hup _ _ _ _
    | failure =>
      show true = site.isDown board
      rw [Site.isDown, hlisting]
    | collapse => exact fun hlives => hlives.listing hlisting
  | lookup => exact told_lookingOrFetching htold _ _ _ _
  | fetch => exact htold
  | @fetched board subscriptions queued running tally number job hjob =>
    obtain ⟨hup, hnone⟩ := htold
    cases hposts : site.posts board job.thread with
    | answer posts => exact told_fetchingOrDone hup (tally.addThread _ _) hnone _ _
    | failure => exact told_fetchingOrDone hup tally.addFailure hnone _ _
    | collapse => exact fun hlives => hlives.posts job.thread hposts

/-- A settled errand has died, or has reported just what became of its
board. -/
theorem Told.cases {errand : Errand} (h : errand.Told site) (hsettled : errand.isSettled = true) :
    (errand.stage = .dead ∧ ¬ site.LivesOn errand.board) ∨
      ∃ tally, errand.stage = .reported tally ∧ tally.failed = site.isDown errand.board := by
  obtain ⟨board, subscriptions, stage⟩ := errand
  cases stage with
  | reported tally => exact .inr ⟨tally, rfl, h⟩
  | dead => exact .inl ⟨rfl, h⟩
  | _ => cases hsettled

end Told

end Errand

/-! ## §2. The report. -/

/-- Among settled errands, who did not die has reported, and who did not
succeed died or found its board down. -/
theorem count_errands {site : Site} {errands : List Errand}
    (h : ∀ errand ∈ errands, errand.Told site ∧ errand.isSettled = true) :
    (errands.filterMap Cycle.tallyOf?).length + errands.countP (·.died) = errands.length ∧
      (errands.filterMap Cycle.tallyOf?).countP (·.failed) + errands.countP (·.died) =
        errands.countP (fun errand => errand.died || site.isDown errand.board) ∧
      errands.countP (·.succeeded) +
        errands.countP (fun errand => errand.died || site.isDown errand.board) =
          errands.length := by
  -- Induction on the errands: each one died, or has reported what its board allowed.
  induction errands with
  | nil => exact ⟨rfl, rfl, rfl⟩
  | cons errand errands ih =>
    obtain ⟨hreported, hfailed, hall⟩ :=
      ih fun other hother => h other (List.mem_cons_of_mem _ hother)
    obtain ⟨htold, hsettled⟩ := h errand List.mem_cons_self
    simp only [List.countP_cons, List.length_cons]
    rcases htold.cases hsettled with ⟨hstage, -⟩ | ⟨tally, hstage, htally⟩
    · have hdied : errand.died = true := by rw [Errand.died, hstage]
      have hfail : errand.succeeded = false := by rw [Errand.succeeded, hstage]
      have hnone : Cycle.tallyOf? errand = none := by rw [Cycle.tallyOf?, hstage]
      rw [List.filterMap_cons_none hnone, hdied, hfail]
      simp only [Bool.true_or, if_true, Bool.false_eq_true, if_false]
      omega
    · have hdied : errand.died = false := by rw [Errand.died, hstage]
      have hsome : Cycle.tallyOf? errand = some tally := by rw [Cycle.tallyOf?, hstage]
      have hsucceeded : errand.succeeded = !site.isDown errand.board := by
        rw [Errand.succeeded, hstage, ← htally]
      rw [List.filterMap_cons_some hsome, hdied, hsucceeded]
      simp only [List.countP_cons, List.length_cons, htally, Bool.false_or]
      cases site.isDown errand.board <;>
        simp only [Bool.not_true, Bool.not_false, if_true, Bool.false_eq_true, if_false] <;> omega

/-- The report of a settled cycle counts every board, as crawled or as failed,
and those as failed that are down or whose errand died. -/
theorem Cycle.report_boards {site : Site} {cycle : Cycle} (hsettled : cycle.isSettled = true)
    (htold : ∀ errand ∈ cycle.errands, errand.Told site) (after : UInt64) :
    cycle.tallies.length ≤ (cycle.report after).boards ∧
      (cycle.report after).boardFailures =
        cycle.errands.countP (fun errand => errand.died || site.isDown errand.board) ∧
      (cycle.report after).boards =
        cycle.errands.countP (·.succeeded) + (cycle.report after).boardFailures := by
  rw [isSettled, List.all_eq_true] at hsettled
  obtain ⟨hreported, hfailed, hall⟩ :=
    count_errands fun errand herrand => ⟨htold errand herrand, hsettled errand herrand⟩
  simp only [report, tallies]
  omega

/-! ## §3. A cycle on its way. -/

section Follow

variable {site : Site} {registry : Registry σ} {state : σ}

/-- What an errand that did not die has sent is on its tally. -/
theorem Errand.sent_follow {cursor : UInt64} {width : Nat} {errand : Errand} {steps : List Step}
    (hlives : (errand.follow site registry state cursor width steps).1.stage ≠ .dead) :
    (errand.follow site registry state cursor width steps).1.sent =
      errand.sent ++ (errand.follow site registry state cursor width steps).2.sends := by
  induction steps generalizing errand with
  | nil => exact (List.append_nil _).symm
  | cons step steps ih =>
    cases hmade : errand.step site registry state cursor width step with
    | none =>
      rw [follow_cons_none hmade] at hlives ⊢
      exact ih hlives
    | some made =>
      obtain ⟨next, trace⟩ := made
      rw [follow_cons_some hmade] at hlives ⊢
      -- nobody comes back to life
      have hnext : next.stage ≠ .dead := by
        intro hdead
        rw [follow_of_isSettled (by rw [isSettled, hdead])] at hlives
        exact hlives hdead
      show _ = errand.sent ++ (trace.sends ++ _)
      rw [ih hlives, (Errand.step_eq_some_iff.mp hmade).sent_eq hnext, List.append_assoc]

/-- Whatever has happened, a cycle can come to its end. -/
theorem Cycle.exists_settling {cycle : Cycle} (hwidth : 0 < cycle.width)
    (hsane : ∀ errand ∈ cycle.errands, errand.Sane) :
    ∃ steps, (cycle.follow site registry state steps).isSettled = true := by
  -- on what is left to do, of which each step leaves less
  induction htodo : cycle.todo site using Nat.strongRecOn generalizing cycle with
  | ind count ih =>
    by_cases hsettled : cycle.isSettled = true
    · exact ⟨[], hsettled⟩
    · obtain ⟨position, step, next, hstep⟩ :=
        exists_step site registry state hwidth hsane hsettled
      have hnext : cycle.follow site registry state [(position, step)] = next :=
        follow_cons_some hstep []
      obtain ⟨errand, after, trace, -, -, hset⟩ := step_eq_some_iff.mp hstep
      obtain ⟨steps, hsteps⟩ := ih (next.todo site) (htodo ▸ todo_step hstep)
        (by rw [hset]; exact hwidth)
        (hnext ▸ follow_keeps (fun hmoves => hmoves.sane) hsane [(position, step)]) rfl
      exact ⟨(position, step) :: steps, by rwa [follow_cons_some hstep]⟩

end Follow

/-! ## §4. From the beginning to the report. -/

/-- Whether a report counts every board of some subscriptions once, as crawled
or as failed: its listing failed, or its errand died, of an answer of that
board. -/
structure Report.Counts (site : Site) (subscriptions : List Subscription) (last : Cycle)
    (report : Report) : Prop where
  errands : (last.errands.map (·.board)).Perm (subscriptions.map (·.board)).dedup
  boards : report.boards = (subscriptions.map (·.board)).dedup.length
  reported : last.tallies.length ≤ report.boards
  failures : report.boardFailures =
    last.errands.countP fun errand => errand.died || site.isDown errand.board
  crawled : report.boards = last.errands.countP (·.succeeded) + report.boardFailures
  died : ∀ errand ∈ last.errands, errand.died = true → ¬ site.LivesOn errand.board

section Start

variable {registry : Registry σ} {width : Nat} {state : σ} {cycle : Cycle}

/-- A cycle that has begun can come to its end, whatever happens first. -/
theorem Cycle.settles (hstart : start registry width state = .ok cycle) (site : Site)
    (steps : List (Nat × Step)) : ∃ more,
      ((cycle.follow site registry state steps).follow site registry state more).isSettled =
        true := by
  have hsane : ∀ errand ∈ cycle.errands, errand.Sane := by
    intro errand herrand
    rw [Errand.Sane, waiting_of_start hstart herrand]
    trivial
  refine exists_settling ?_ (follow_keeps (fun hmoves => hmoves.sane) hsane steps)
  rw [width_follow, width_of_start hstart]
  exact Nat.lt_of_lt_of_le Nat.one_pos (Nat.le_max_left _ _)

/-- An errand that reports tells all that it has sent. -/
theorem Cycle.sends_of_reported (hstart : start registry width state = .ok cycle) {site : Site}
    {steps : List (Nat × Step)} {position : Nat} {last : Errand} {tally : Tally}
    (hlast : (cycle.follow site registry state steps).errands[position]? = some last)
    (htally : last.stage = .reported tally) :
    tally.sends = (cycle.share site registry state position steps).sends := by
  have hlength := (List.getElem?_eq_some_iff.mp hlast).1
  rw [length_follow] at hlength
  have herrand := List.getElem?_eq_getElem hlength
  cases hlast.symm.trans (getElem?_follow site registry state herrand steps)
  have hsent := Errand.sent_follow (by rw [htally]; exact nofun)
  have hnone : cycle.errands[position].sent = [] := by
    rw [Errand.sent, waiting_of_start hstart (List.getElem_mem hlength)]
  rw [hnone, List.nil_append] at hsent
  rw [share_eq herrand, ← hsent, Errand.sent, htally]

/-- However a cycle has come to its end, its report counts every board. -/
theorem Cycle.report_counts (hstart : start registry width state = .ok cycle)
    {subscriptions : List Subscription}
    (hsubscriptions : registry.subscriptions state = .ok subscriptions) {site : Site}
    {steps : List (Nat × Step)}
    (hsettled : (cycle.follow site registry state steps).isSettled = true) (after : UInt64) :
    ((cycle.follow site registry state steps).report after).Counts site subscriptions
      (cycle.follow site registry state steps) := by
  have hbegun : ∀ errand ∈ cycle.errands, errand.Told site := by
    intro errand herrand
    rw [Errand.Told, waiting_of_start hstart herrand]
    trivial
  have htold : ∀ errand ∈ (cycle.follow site registry state steps).errands, errand.Told site :=
    follow_keeps (fun hmoves => hmoves.told) hbegun steps
  -- an errand for each subscribed board, whatever has become of it
  have hboards : cycle.errands.map (·.board) = boardsOf subscriptions := by
    obtain ⟨cursor, found, -, hfound, rfl⟩ := of_start hstart
    cases hfound.symm.trans hsubscriptions
    rw [List.map_map]
    exact List.map_id _
  have herrands : ((cycle.follow site registry state steps).errands.map (·.board)).Perm
      (subscriptions.map (·.board)).dedup := by
    rw [boards_follow, hboards]
    exact boardsOf_perm subscriptions
  obtain ⟨hreported, hfailures, hcrawled⟩ := report_boards hsettled htold after
  refine ⟨herrands, ?_, hreported, hfailures, hcrawled, fun errand herrand hdied => ?_⟩
  · rw [← herrands.length_eq, List.length_map]
    rfl
  · rcases (htold errand herrand).cases (List.all_eq_true.mp hsettled errand herrand) with
      ⟨-, hlives⟩ | ⟨tally, hstage, -⟩
    · exact hlives
    · rw [Errand.died, hstage] at hdied
      cases hdied

end Start

end BoardRelay.Crawl
