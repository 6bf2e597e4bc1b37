/-
  BoardRelay.Proofs.Crawl.Share
  ────────────────────────────────
  What each errand does of a cycle.  An errand goes its own way: what becomes
  of it, and what it asks and sends, depends on its own steps alone
  (`Cycle.getElem?_follow`), and a cycle asks and sends what its errands do
  (`Cycle.trace_follow`).  So an errand whose board nobody dies on asks and
  sends the same in whatever order all answers come (`Cycle.share_perm`).
-/
import BoardRelay.Proofs.Crawl.Cycle

namespace BoardRelay.Crawl

variable {σ : Type}

/-! ## §1. Errands on their own. -/

@[simp]
theorem Trace.append_none (trace : Trace) : trace.append .none = trace := by
  simp [Trace.append, Trace.none]

@[simp]
theorem Trace.none_append (trace : Trace) : Trace.none.append trace = trace := by
  simp [Trace.append, Trace.none]

theorem Trace.append_assoc (first second third : Trace) :
    (first.append second).append third = first.append (second.append third) := by
  simp [Trace.append]

/-- The errand after some steps, with what it asked and sent on the way; a
step that cannot be made changes nothing. -/
def Errand.follow (site : Site) (registry : Registry σ) (state : σ) (cursor : UInt64)
    (width : Nat) : List Step → Errand → Errand × Trace
  | [], errand => (errand, .none)
  | step :: steps, errand =>
    match errand.step site registry state cursor width step with
    | none => follow site registry state cursor width steps errand
    | some (next, trace) =>
      let (last, more) := follow site registry state cursor width steps next
      (last, trace.append more)

/-- The cycle after some steps, each by the position of its errand; a step
that cannot be made changes nothing. -/
def Cycle.follow (site : Site) (registry : Registry σ) (state : σ) :
    List (Nat × Step) → Cycle → Cycle
  | [], cycle => cycle
  | (position, step) :: steps, cycle =>
    follow site registry state steps
      ((cycle.step site registry state position step).getD cycle)

/-- The steps of a cycle that are those of the errand at a position. -/
def ownSteps (position : Nat) (steps : List (Nat × Step)) : List Step :=
  (steps.filter fun entry => entry.1 = position).map (·.2)

theorem ownSteps_append (position : Nat) (steps more : List (Nat × Step)) :
    ownSteps position (steps ++ more) = ownSteps position steps ++ ownSteps position more := by
  rw [ownSteps, List.filter_append, List.map_append]
  rfl

/-- A step of the errand's own comes first among its steps. -/
theorem ownSteps_cons_self (position : Nat) (step : Step) (steps : List (Nat × Step)) :
    ownSteps position ((position, step) :: steps) = step :: ownSteps position steps := by
  rw [ownSteps, List.filter_cons_of_pos (by simp)]
  rfl

/-- A step of another errand is not among them. -/
theorem ownSteps_cons_of_ne {position other : Nat} (hne : other ≠ position) (step : Step)
    (steps : List (Nat × Step)) :
    ownSteps position ((other, step) :: steps) = ownSteps position steps := by
  rw [ownSteps, List.filter_cons_of_neg (by simpa using hne)]
  rfl

/-- What the errand at a position asks and sends when a cycle follows some
steps. -/
def Cycle.share (site : Site) (registry : Registry σ) (state : σ) (position : Nat)
    (steps : List (Nat × Step)) (cycle : Cycle) : Trace :=
  match cycle.errands[position]? with
  | none => .none
  | some errand =>
    (errand.follow site registry state cycle.cursor cycle.width (ownSteps position steps)).2

section Follow

variable {site : Site} {registry : Registry σ} {state : σ} {cursor : UInt64} {width : Nat}
  {position : Nat} {errand : Errand} {cycle : Cycle}

theorem Errand.follow_cons_some {step : Step} {next : Errand} {trace : Trace}
    (h : errand.step site registry state cursor width step = some (next, trace))
    (steps : List Step) :
    errand.follow site registry state cursor width (step :: steps) =
      ((next.follow site registry state cursor width steps).1,
        trace.append (next.follow site registry state cursor width steps).2) := by
  rw [follow, h]

theorem Errand.follow_cons_none {step : Step}
    (h : errand.step site registry state cursor width step = none) (steps : List Step) :
    errand.follow site registry state cursor width (step :: steps) =
      errand.follow site registry state cursor width steps := by
  rw [follow, h]

/-- A settled errand has no step left. -/
theorem Errand.step_of_isSettled (h : errand.isSettled = true) (step : Step) :
    errand.step site registry state cursor width step = none := by
  cases hstep : errand.step site registry state cursor width step with
  | none => rfl
  | some made =>
    obtain ⟨next, trace⟩ := made
    cases Errand.step_eq_some_iff.mp hstep <;> cases h

/-- Nothing comes of a settled errand any more. -/
theorem Errand.follow_of_isSettled (h : errand.isSettled = true) (steps : List Step) :
    errand.follow site registry state cursor width steps = (errand, .none) := by
  induction steps with
  | nil => rfl
  | cons step steps ih => rw [follow_cons_none (step_of_isSettled h step), ih]

/-- More steps go on from where the first ones have led. -/
theorem Errand.follow_append (steps more : List Step) (errand : Errand) :
    errand.follow site registry state cursor width (steps ++ more) =
      (((errand.follow site registry state cursor width steps).1.follow site registry state cursor
          width more).1,
        (errand.follow site registry state cursor width steps).2.append
          ((errand.follow site registry state cursor width steps).1.follow site registry state
            cursor width more).2) := by
  -- Induction on the steps before; a step that the errand does not take leaves it as it is.
  induction steps generalizing errand with
  | nil => rw [List.nil_append, follow, Trace.none_append]
  | cons step steps ih =>
    rw [List.cons_append]
    cases hmade : errand.step site registry state cursor width step with
    | none => rw [follow_cons_none hmade, follow_cons_none hmade, ih]
    | some made =>
      obtain ⟨next, trace⟩ := made
      rw [follow_cons_some hmade, follow_cons_some hmade, ih, Trace.append_assoc]

theorem Cycle.share_eq (herrand : cycle.errands[position]? = some errand)
    (steps : List (Nat × Step)) : cycle.share site registry state position steps =
      (errand.follow site registry state cycle.cursor cycle.width (ownSteps position steps)).2 := by
  rw [share, herrand]

/-- A step of a cycle that cannot be made is one that its errand cannot
make. -/
theorem Cycle.errand_step_eq_none {step : Step}
    (h : cycle.step site registry state position step = none)
    (herrand : cycle.errands[position]? = some errand) :
    errand.step site registry state cycle.cursor cycle.width step = none := by
  cases hstep : errand.step site registry state cycle.cursor cycle.width step with
  | none => rfl
  | some made =>
    obtain ⟨next, trace⟩ := made
    rw [Cycle.step_eq_some_iff.mpr
      ⟨errand, next, trace, herrand, Errand.step_eq_some_iff.mp hstep, rfl⟩] at h
    cases h

theorem Cycle.follow_append (steps more : List (Nat × Step)) (cycle : Cycle) :
    cycle.follow site registry state (steps ++ more) =
      (cycle.follow site registry state steps).follow site registry state more := by
  induction steps generalizing cycle with
  | nil => rfl
  | cons entry steps ih =>
    obtain ⟨position, step⟩ := entry
    exact ih _

theorem Cycle.follow_cons_some {step : Step} {next : Cycle}
    (h : cycle.step site registry state position step = some next) (steps : List (Nat × Step)) :
    cycle.follow site registry state ((position, step) :: steps) =
      next.follow site registry state steps := by
  rw [follow, h]
  rfl

theorem Cycle.follow_cons_none {step : Step}
    (h : cycle.step site registry state position step = none) (steps : List (Nat × Step)) :
    cycle.follow site registry state ((position, step) :: steps) =
      cycle.follow site registry state steps := by
  rw [follow, h]
  rfl

variable (site registry state) in
/-- What becomes of an errand depends on its own steps. -/
theorem Cycle.getElem?_follow (herrand : cycle.errands[position]? = some errand)
    (steps : List (Nat × Step)) :
    (cycle.follow site registry state steps).errands[position]? = some
      (errand.follow site registry state cycle.cursor cycle.width (ownSteps position steps)).1 := by
  -- Induction on the steps.  The errand moves with a step of its own; by any other it stands where
  -- it stood.
  induction steps generalizing cycle errand with
  | nil => exact herrand
  | cons entry steps ih =>
    obtain ⟨other, step⟩ := entry
    cases hstep : cycle.step site registry state other step with
    | none =>
      rw [follow_cons_none hstep, ih herrand]
      by_cases heq : other = position
      · subst heq
        rw [ownSteps_cons_self, Errand.follow_cons_none (errand_step_eq_none hstep herrand)]
      · rw [ownSteps_cons_of_ne heq]
    | some next =>
      rw [follow_cons_some hstep]
      obtain ⟨mover, after, trace, hmover, hmoves, rfl⟩ := Cycle.step_eq_some_iff.mp hstep
      by_cases heq : other = position
      · subst heq
        cases herrand.symm.trans hmover
        rw [ownSteps_cons_self, Errand.follow_cons_some (Errand.step_eq_some_iff.mpr hmoves)]
        exact ih (List.getElem?_set_self (List.getElem?_eq_some_iff.mp herrand).1)
      · rw [ownSteps_cons_of_ne heq]
        exact ih ((List.getElem?_set_ne heq).trans herrand)

/-- What every step keeps of a cycle is kept by any steps. -/
theorem Cycle.follow_of_step {P : Cycle → Prop}
    (hstep : ∀ {cycle next : Cycle} {position : Nat} {step : Step},
      cycle.step site registry state position step = some next → P cycle → P next)
    (h : P cycle) (steps : List (Nat × Step)) :
    P (cycle.follow site registry state steps) := by
  -- Induction on the steps, those that are not taken included.
  induction steps generalizing cycle with
  | nil => exact h
  | cons entry steps ih =>
    obtain ⟨position, step⟩ := entry
    cases hnext : cycle.step site registry state position step with
    | none =>
      rw [follow_cons_none hnext]
      exact ih h
    | some next =>
      rw [follow_cons_some hnext]
      exact ih (hstep hnext h)

/-- No errand is lost on the way, and none is added. -/
theorem Cycle.length_follow (steps : List (Nat × Step)) (cycle : Cycle) :
    (cycle.follow site registry state steps).errands.length = cycle.errands.length := by
  refine follow_of_step (P := fun last => last.errands.length = cycle.errands.length)
    (fun hstep hlength => ?_) rfl steps
  obtain ⟨mover, after, trace, -, -, rfl⟩ := Cycle.step_eq_some_iff.mp hstep
  exact List.length_set.trans hlength

theorem Cycle.width_follow (steps : List (Nat × Step)) (cycle : Cycle) :
    (cycle.follow site registry state steps).width = cycle.width := by
  refine follow_of_step (P := fun last => last.width = cycle.width)
    (fun hstep hwidth => ?_) rfl steps
  obtain ⟨mover, after, trace, -, -, rfl⟩ := Cycle.step_eq_some_iff.mp hstep
  exact hwidth

/-- What every step keeps of an errand is kept by any steps. -/
theorem Errand.follow_keeps {P : Errand → Prop}
    (hkeeps : ∀ {errand next : Errand} {step : Step} {trace : Trace},
      errand.Moves site registry state cursor width step next trace → P errand → P next)
    (h : P errand) (steps : List Step) :
    P (errand.follow site registry state cursor width steps).1 := by
  induction steps generalizing errand with
  | nil => exact h
  | cons step steps ih =>
    cases hmade : errand.step site registry state cursor width step with
    | none =>
      rw [follow_cons_none hmade]
      exact ih h
    | some made =>
      obtain ⟨next, trace⟩ := made
      rw [follow_cons_some hmade]
      exact ih (hkeeps (Errand.step_eq_some_iff.mp hmade) h)

theorem Errand.board_follow (steps : List Step) (errand : Errand) :
    (errand.follow site registry state cursor width steps).1.board = errand.board :=
  follow_keeps (P := fun last => last.board = errand.board)
    (fun hmoves hboard => hmoves.board_eq.1.trans hboard) rfl steps

/-- What every step keeps of an errand is kept of all errands of a cycle. -/
theorem Cycle.follow_keeps {P : Errand → Prop}
    (hkeeps : ∀ {errand next : Errand} {step : Step} {trace : Trace},
      errand.Moves site registry state cycle.cursor cycle.width step next trace →
        P errand → P next)
    (h : ∀ errand ∈ cycle.errands, P errand) (steps : List (Nat × Step)) :
    ∀ errand ∈ (cycle.follow site registry state steps).errands, P errand := by
  intro last hlast
  obtain ⟨position, hposition⟩ := List.getElem?_of_mem hlast
  have hlength := (List.getElem?_eq_some_iff.mp hposition).1
  rw [length_follow] at hlength
  have herrand := List.getElem?_eq_getElem hlength
  cases hposition.symm.trans (getElem?_follow site registry state herrand steps)
  exact Errand.follow_keeps hkeeps (h _ (List.getElem_mem hlength)) _

/-- The boards of a cycle stay its boards. -/
theorem Cycle.boards_follow (steps : List (Nat × Step)) (cycle : Cycle) :
    (cycle.follow site registry state steps).errands.map (·.board) =
      cycle.errands.map (·.board) := by
  refine List.ext_getElem? fun position => ?_
  rw [List.getElem?_map, List.getElem?_map]
  cases herrand : cycle.errands[position]? with
  | none =>
    have hnone := List.getElem?_eq_none_iff.mp herrand
    rw [List.getElem?_eq_none ((length_follow steps cycle).trans_le hnone)]
  | some errand =>
    rw [getElem?_follow site registry state herrand, Option.map_some, Option.map_some,
      Errand.board_follow]

/-- Who makes a step adds it to what it does later, and nobody else does. -/
theorem Cycle.share_cons_some {other : Nat} {step : Step} {mover after : Errand} {trace : Trace}
    (hmover : cycle.errands[other]? = some mover)
    (hmoves : mover.Moves site registry state cycle.cursor cycle.width step after trace)
    (whole : Trace) (position : Nat) (steps : List (Nat × Step)) :
    cycle.share site registry state position ((other, step) :: steps) =
      if other = position then trace.append (share site registry state position steps
        { cycle with errands := cycle.errands.set other after, trace := whole })
      else share site registry state position steps
        { cycle with errands := cycle.errands.set other after, trace := whole } := by
  split
  · next heq =>
    subst heq
    rw [share_eq hmover, ownSteps_cons_self,
      Errand.follow_cons_some (Errand.step_eq_some_iff.mpr hmoves),
      share_eq (List.getElem?_set_self (List.getElem?_eq_some_iff.mp hmover).1)]
  · -- a step of another errand is none of this one's
    next hne =>
    rw [share, share, ownSteps_cons_of_ne hne]
    simp only [List.getElem?_set_ne hne]

/-- A step that cannot be made is in nobody's share. -/
theorem Cycle.share_cons_none {other : Nat} {step : Step}
    (h : cycle.step site registry state other step = none) (position : Nat)
    (steps : List (Nat × Step)) :
    cycle.share site registry state position ((other, step) :: steps) =
      cycle.share site registry state position steps := by
  rw [share, share]
  split
  · rfl
  · next errand herrand =>
    by_cases heq : other = position
    · subst heq
      rw [ownSteps_cons_self, Errand.follow_cons_none (errand_step_eq_none h herrand)]
    · rw [ownSteps_cons_of_ne heq]

variable (site registry state) in
/-- A cycle asks and sends what its errands ask and send, part by part. -/
theorem Cycle.trace_follow {α : Type} (part : Trace → List α)
    (happend : ∀ first second : Trace, part (first.append second) = part first ++ part second)
    (steps : List (Nat × Step)) (cycle : Cycle) :
    (part (cycle.follow site registry state steps).trace).Perm (part cycle.trace ++
      (List.range cycle.errands.length).flatMap fun position =>
        part (cycle.share site registry state position steps)) := by
  have hnone : part .none = [] := by
    have hself := happend .none .none
    rw [Trace.append_none] at hself
    exact List.self_eq_append_right.mp hself
  -- by the steps in turn: each adds its part to the whole and to one share
  induction steps generalizing cycle with
  | nil =>
    have hshares : ∀ position ∈ List.range cycle.errands.length,
        part (cycle.share site registry state position []) = [] := by
      intro position hposition
      rw [share_eq (List.getElem?_eq_getElem (List.mem_range.mp hposition))]
      exact hnone
    rw [List.flatMap_eq_nil_iff.mpr hshares, List.append_nil]
    exact .refl _
  | cons entry steps ih =>
    obtain ⟨other, step⟩ := entry
    cases hstep : cycle.step site registry state other step with
    | none =>
      rw [follow_cons_none hstep]
      simp only [share_cons_none hstep]
      exact ih cycle
    | some next =>
      rw [follow_cons_some hstep]
      obtain ⟨mover, after, trace, hmover, hmoves, rfl⟩ := Cycle.step_eq_some_iff.mp hstep
      have hlater := ih { cycle with
        errands := cycle.errands.set other after
        trace := cycle.trace.append trace }
      refine hlater.trans ?_
      simp only [happend, List.length_set, List.append_assoc]
      refine List.Perm.append_left _ ?_
      have hother : other ∈ List.range cycle.errands.length :=
        List.mem_range.mpr (List.getElem?_eq_some_iff.mp hmover).1
      -- the mover's part comes first in its share
      refine perm_flatMap_update hother List.nodup_range ?_ fun position hne => ?_
      · rw [share_cons_some hmover hmoves (cycle.trace.append trace), if_pos rfl, happend]
      · rw [share_cons_some hmover hmoves (cycle.trace.append trace), if_neg hne.symm]

end Follow

/-! ## §2. Sites that agree on a board. -/

/-- Two sites that do the same for one board. -/
structure Site.AgreesOn (board : String) (site other : Site) : Prop where
  listing : other.listing board = site.listing board
  posts (thread : String) : other.posts board thread = site.posts board thread
  resource : other.resource = site.resource

/-- A site on whose board nobody dies of an answer. -/
structure Site.LivesOn (board : String) (site : Site) : Prop where
  listing : site.listing board ≠ .collapse
  posts (thread : String) : site.posts board thread ≠ .collapse

/-- The site that fails for all boards but one. -/
def Site.only (board : String) (site : Site) : Site where
  listing other := if other = board then site.listing board else .failure
  posts other thread := if other = board then site.posts board thread else .failure
  resource := site.resource

/-- The site that is left of one board does for it what the whole site does. -/
theorem Site.agreesOn_only (board : String) (site : Site) :
    site.AgreesOn board (site.only board) :=
  ⟨if_pos rfl, fun _ => if_pos rfl, rfl⟩

/-- On that site nobody dies, if nobody dies on the board. -/
theorem Site.LivesOn.lives_only {board : String} {site : Site} (h : site.LivesOn board) :
    (site.only board).Lives := by
  refine ⟨fun other => ?_, fun other thread => ?_⟩
  · rw [only]
    dsimp only
    split
    · exact h.listing
    · exact nofun
  · rw [only]
    dsimp only
    split
    · exact h.posts thread
    · exact nofun

section Agree

variable {site other : Site} {registry : Registry σ} {state : σ} {cursor : UInt64} {width : Nat}
  {errand : Errand}

/-- An errand sees nothing of a site but its own board. -/
theorem Errand.step_congr (h : site.AgreesOn errand.board other) (step : Step) :
    errand.step other registry state cursor width step =
      errand.step site registry state cursor width step := by
  obtain ⟨board, subscriptions, stage⟩ := errand
  -- only the two steps that take an answer look at the site
  cases step with
  | listed =>
    simp only [Errand.step]
    rw [h.listing]
  | fetched number =>
    simp only [Errand.step, takePosts, h.resource]
    cases stage with
    | fetching queued running tally =>
      dsimp only
      cases running.find? fun job => job.number = number with
      | none => rfl
      | some job => simp only [h.posts job.thread]
    | _ => rfl
  | list => rfl
  | lookup position => rfl
  | fetch => rfl

/-- So an errand goes the same way on sites that agree on its board. -/
theorem Errand.follow_congr (h : site.AgreesOn errand.board other) (steps : List Step) :
    errand.follow other registry state cursor width steps =
      errand.follow site registry state cursor width steps := by
  induction steps generalizing errand with
  | nil => rfl
  | cons step steps ih =>
    -- the errand only ever asks of its own board, where the sites agree
    have hstep : errand.step other registry state cursor width step =
        errand.step site registry state cursor width step := step_congr h step
    cases hmade : errand.step site registry state cursor width step with
    | none => rw [follow_cons_none hmade, follow_cons_none (hstep.trans hmade), ih h]
    | some made =>
      obtain ⟨next, trace⟩ := made
      have hboard := (Errand.step_eq_some_iff.mp hmade).board_eq.1
      rw [follow_cons_some hmade, follow_cons_some (hstep.trans hmade), ih (hboard ▸ h)]

end Agree

/-! ## §3. What an errand asks. -/

/-- The lookups of the subscriptions at some positions. -/
def lookups (subscriptions : List Subscription) (positions : List Nat) : List Call :=
  positions.filterMap fun position => subscriptions[position]?.map fun s => .lookup s.id

/-- The fetches of the threads of some jobs. -/
def fetches (board : String) (jobs : List Job) : List Call :=
  jobs.map fun job => .fetch board job.thread

/-- The jobs of matched threads when all that is known is found. -/
def wantedJobs (known : Int64 → List User) (subscriptions : List Subscription)
    (found : List Match) : List Job :=
  jobs subscriptions ((needed subscriptions found).map fun position =>
    (position, knownAt known subscriptions position)) found

namespace Errand

/-- What an errand asks once its listing has come back. -/
def askedOf (known : Int64 → List User) (errand : Errand) (outcome : Outcome Listing) :
    List Call :=
  match outcome with
  | .answer listing =>
    let found := matched errand.subscriptions listing
    lookups errand.subscriptions (needed errand.subscriptions found) ++
      fetches errand.board (wantedJobs known errand.subscriptions found)
  | _ => []

/-- What an errand still asks, if `known` tells the users of a subscription
and nobody dies. -/
def toAsk (site : Site) (known : Int64 → List User) (errand : Errand) : List Call :=
  match errand.stage with
  | .waiting => .list errand.board :: errand.askedOf known (site.listing errand.board)
  | .listing => errand.askedOf known (site.listing errand.board)
  | .looking found missing _ =>
    lookups errand.subscriptions missing ++
      fetches errand.board (wantedJobs known errand.subscriptions found)
  | .fetching queued _ _ => fetches errand.board queued
  | _ => []

end Errand

/-- What is listed for each position is found under it. -/
theorem lookup_map_self {α : Type} (f : Nat → α) {positions : List Nat} {position : Nat}
    (h : position ∈ positions) :
    (positions.map fun position => (position, f position)).lookup position =
      some (f position) := by
  induction positions with
  | nil => cases h
  | cons first positions ih =>
    rw [List.map_cons]
    by_cases heq : position = first
    · rw [heq, List.lookup_cons_self]
    · rw [List.lookup_cons, beq_eq_false_iff_ne.mpr heq]
      exact ih ((List.mem_cons.mp h).resolve_left heq)

/-- In whatever order the subscribers were looked up, the jobs are the
same. -/
theorem Truthful.jobs_eq {known : Int64 → List User} {subscriptions : List Subscription}
    {users : Subscribers} {listing : Listing} (husers : Truthful known subscriptions users)
    (hneeded : ∀ position ∈ needed subscriptions (matched subscriptions listing),
      position ∈ users.map (·.1)) :
    jobs subscriptions users (matched subscriptions listing) =
      wantedJobs known subscriptions (matched subscriptions listing) := by
  -- whoever is needed for an entry was looked up, and truthfully
  have hinterests : ∀ entry ∈ matched subscriptions listing,
      interests subscriptions users entry = interests subscriptions
        ((needed subscriptions (matched subscriptions listing)).map fun position =>
          (position, knownAt known subscriptions position)) entry := by
    intro entry hentry
    obtain ⟨thread, -, hthread⟩ := List.mem_map.mp (List.mem_of_mem_filter hentry)
    rw [interests, interests]
    refine List.flatMap_congr fun position hposition => ?_
    have hmem := mem_needed hentry (congrArg Match.hits hthread).symm hposition
    rw [husers.lookup_eq (hneeded position hmem), lookup_map_self _ hmem]
  rw [wantedJobs, jobs, jobs]
  congr 2
  exact List.map_congr_left fun entry hentry => by rw [hinterests entry hentry]

/-- With its jobs known, an errand has to ask for the threads in the queue. -/
theorem Errand.toAsk_fetchingOrDone (site : Site) (known : Int64 → List User) (board : String)
    (subscriptions : List Subscription) (queued running : List Job) (tally : Tally) :
    toAsk site known ⟨board, subscriptions, fetchingOrDone queued running tally⟩ =
      fetches board queued := by
  rw [fetchingOrDone]
  split
  · next hempty =>
    rw [List.isEmpty_iff.mp (Bool.and_eq_true_iff.mp hempty).1]
    rfl
  · rfl

/-- What is still to be looked up and fetched, also when nothing is to be
looked up any more. -/
theorem Errand.toAsk_lookingOrFetching (site : Site) {known : Int64 → List User} (board : String)
    (cursor : UInt64) {subscriptions : List Subscription} {listing : Listing} {missing : List Nat}
    {users : Subscribers} (husers : Truthful known subscriptions users)
    (hneeded : ∀ position ∈ needed subscriptions (matched subscriptions listing),
      position ∈ missing ∨ position ∈ users.map (·.1)) :
    toAsk site known ⟨board, subscriptions,
        lookingOrFetching cursor subscriptions (matched subscriptions listing) missing users⟩ =
      lookups subscriptions missing ++
        fetches board (wantedJobs known subscriptions (matched subscriptions listing)) := by
  cases missing with
  | cons position missing => rfl
  | nil =>
    have hfound := husers.jobs_eq fun position hposition =>
      (hneeded position hposition).resolve_left List.not_mem_nil
    rw [lookingOrFetching_nil, toAsk_fetchingOrDone, hfound]
    rfl

/-- A step asks what was to be asked, unless the errand dies of it. -/
theorem Errand.Moves.toAsk_perm {site : Site} {registry : Registry σ} {state : σ}
    {cursor : UInt64} {width : Nat} {errand next : Errand} {step : Step} {trace : Trace}
    (h : errand.Moves site registry state cursor width step next trace)
    (haccounted : errand.Accounted site (registry.known state) cursor)
    (hlives : next.stage ≠ .dead) :
    (trace.calls ++ next.toAsk site (registry.known state)).Perm
      (errand.toAsk site (registry.known state)) := by
  cases h with
  | list => exact .refl _
  | listed board subscriptions =>
    cases hlisting : site.listing board with
    | answer listing =>
      have hnobody : Truthful (registry.known state) subscriptions [] :=
        fun _ hentry => (List.not_mem_nil hentry).elim
      have hneeded : ∀ position ∈ needed subscriptions (matched subscriptions listing),
          position ∈ needed subscriptions (matched subscriptions listing) ∨
            position ∈ ([] : Subscribers).map (·.1) := fun _ => .inl
      have hasks := toAsk_lookingOrFetching site board cursor hnobody hneeded
      refine .of_eq (hasks.trans ?_)
      simp only [toAsk, hlisting]
      rfl
    | failure =>
      refine .of_eq ?_
      simp only [toAsk, hlisting]
      rfl
    | collapse =>
      rw [hlisting] at hlives
      exact absurd rfl hlives
  | @lookup board subscriptions found missing users position s hs hmissing =>
    obtain ⟨⟨listing, -, hfound⟩, -, -, husers, hneeded⟩ := haccounted
    dsimp only at hfound hneeded
    subst hfound
    rw [toAsk_lookingOrFetching site board cursor (husers.looked hs) fun other hother =>
      missing_or_looked (hneeded other hother) _ _]
    -- the position that was looked up is gone from what is missing, wherever it stood
    have hmoved := (List.perm_cons_erase hmissing).filterMap
      fun position => subscriptions[position]?.map fun s => Call.lookup s.id
    rw [List.filterMap_cons, hs] at hmoved
    exact hmoved.symm.append_right _
  | fetch => exact .refl _
  | @fetched board subscriptions queued running tally number job hjob =>
    cases hposts : site.posts board job.thread with
    | answer posts => exact .of_eq (toAsk_fetchingOrDone _ _ _ _ _ _ _)
    | failure => exact .of_eq (toAsk_fetchingOrDone _ _ _ _ _ _ _)
    | collapse =>
      rw [hposts] at hlives
      exact absurd rfl hlives

/-! ## §4. All that an errand asks and sends. -/

/-- A settled errand has nothing left to ask. -/
theorem Errand.toAsk_of_isSettled {site : Site} {known : Int64 → List User} {errand : Errand}
    (h : errand.isSettled = true) : errand.toAsk site known = [] := by
  obtain ⟨board, subscriptions, stage⟩ := errand
  cases stage with
  | reported tally => rfl
  | dead => rfl
  | _ => cases h

section Account

variable {site : Site} {registry : Registry σ} {state : σ} {cursor : UInt64} {width : Nat}

variable (width) in
/-- Where nobody dies, an errand loses nothing on its way. -/
theorem Errand.Accounted.follow {errand : Errand} (hsite : site.Lives)
    (h : errand.Accounted site (registry.known state) cursor) (steps : List Step) :
    let way := errand.follow site registry state cursor width steps
    way.1.Accounted site (registry.known state) cursor ∧
      (way.2.calls ++ way.1.toAsk site (registry.known state)).Perm
        (errand.toAsk site (registry.known state)) ∧
      way.1.sent = errand.sent ++ way.2.sends ∧
      way.1.promised site (registry.known state) cursor =
        errand.promised site (registry.known state) cursor := by
  -- the four accounts go step by step together, since each step needs the errand to be alive
  induction steps generalizing errand with
  | nil => exact ⟨h, .refl _, (List.append_nil _).symm, rfl⟩
  | cons step steps ih =>
    cases hmade : errand.step site registry state cursor width step with
    | none =>
      rw [follow_cons_none hmade]
      exact ih h
    | some made =>
      obtain ⟨next, trace⟩ := made
      have hmoves := Errand.step_eq_some_iff.mp hmade
      have hnext := hmoves.accounted hsite h
      obtain ⟨hlast, hasked, hsent, hpromised⟩ := ih hnext
      rw [follow_cons_some hmade]
      refine ⟨hlast, ?_, ?_, ?_⟩
      · show ((trace.calls ++ _) ++ _).Perm _
        rw [List.append_assoc]
        exact (hasked.append_left _).trans (hmoves.toAsk_perm h hnext.ne_dead)
      · show _ = errand.sent ++ (trace.sends ++ _)
        rw [hsent, hmoves.sent_eq hnext.ne_dead, List.append_assoc]
      · exact hpromised.trans (Errand.promised_eq hmoves.board_eq.1 hmoves.board_eq.2)

/-- Sites that agree on a board leave the same site of it. -/
theorem Site.only_congr {board : String} {site other : Site} (h : site.AgreesOn board other) :
    other.only board = site.only board := by
  simp only [only, h.listing, h.posts, h.resource]

/-- An errand that has come to its end has asked and sent all that it had
to, if nobody dies on its board. -/
theorem Errand.follow_settled {errand : Errand} (hwaiting : errand.stage = .waiting)
    (hlives : site.LivesOn errand.board) {steps : List Step}
    (hsettled : (errand.follow site registry state cursor width steps).1.isSettled = true) :
    (errand.follow site registry state cursor width steps).2.calls.Perm
        (errand.toAsk (site.only errand.board) (registry.known state)) ∧
      (errand.follow site registry state cursor width steps).2.sends.Perm
        (errand.promised (site.only errand.board) (registry.known state) cursor) := by
  -- the other boards do not matter, so the site is taken to be that of the one board
  have haccounted : errand.Accounted (site.only errand.board) (registry.known state) cursor := by
    rw [Errand.Accounted, hwaiting]
    trivial
  rw [← follow_congr (site.agreesOn_only errand.board)] at hsettled ⊢
  obtain ⟨hlast, hasked, hsent, hpromised⟩ :=
    haccounted.follow width hlives.lives_only steps
  refine ⟨?_, ?_⟩
  · rwa [toAsk_of_isSettled hsettled, List.append_nil] at hasked
  · have hnone : errand.sent = [] := by rw [sent, hwaiting]
    rw [hnone, List.nil_append] at hsent
    rw [← hsent, ← hpromised]
    exact hlast.sent_perm hsettled

end Account

/-- On two sites that agree on a board where nobody dies, in whatever order
the answers come, the board's errand asks the same and sends the same. -/
theorem Cycle.share_perm {site other : Site} {registry : Registry σ} {state : σ} {cycle : Cycle}
    {position : Nat} {errand : Errand} (herrand : cycle.errands[position]? = some errand)
    (hwaiting : errand.stage = .waiting) (hlives : site.LivesOn errand.board)
    (hagree : site.AgreesOn errand.board other) {steps more : List (Nat × Step)}
    (hsettled : (cycle.follow site registry state steps).isSettled = true)
    (hother : (cycle.follow other registry state more).isSettled = true) :
    (cycle.share other registry state position more).calls.Perm
        (cycle.share site registry state position steps).calls ∧
      (cycle.share other registry state position more).sends.Perm
        (cycle.share site registry state position steps).sends := by
  have hlast := getElem?_follow site registry state herrand steps
  have hlast' := getElem?_follow other registry state herrand more
  -- the board lives on the other site as well, since they agree there
  have hlives' : other.LivesOn errand.board :=
    ⟨by rw [hagree.listing]; exact hlives.listing,
      fun thread => by rw [hagree.posts]; exact hlives.posts thread⟩
  rw [isSettled, List.all_eq_true] at hsettled hother
  obtain ⟨hcalls, hsends⟩ :=
    Errand.follow_settled hwaiting hlives (hsettled _ (List.mem_of_getElem? hlast))
  obtain ⟨hcalls', hsends'⟩ :=
    Errand.follow_settled hwaiting hlives' (hother _ (List.mem_of_getElem? hlast'))
  rw [Site.only_congr hagree] at hcalls' hsends'
  rw [share_eq herrand, share_eq herrand]
  exact ⟨hcalls'.trans hcalls.symm, hsends'.trans hsends.symm⟩

end BoardRelay.Crawl
