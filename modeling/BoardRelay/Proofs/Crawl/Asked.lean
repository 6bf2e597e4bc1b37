/-
  BoardRelay.Proofs.Crawl.Asked
  ────────────────────────────────
  All that a cycle asks, said without errands, jobs and positions: the
  listing of each subscribed board, the users of each subscription that a
  listed thread is for, and each listed thread that someone is to get files
  of (`callsDue`).  Whatever the order of the answers, a cycle asks each of
  these once and nothing else, except that it may move the cursor in the end
  (`cycle_asks_due`).
-/
import BoardRelay.Proofs.Crawl.Apart
import BoardRelay.Proofs.Crawl.Walk

namespace BoardRelay.Crawl

variable {σ : Type}

/-! ## §1. The questions that a store's subscriptions call for. -/

/-- The threads that a board lists; none if it cannot be listed. -/
def Site.threads (site : Site) (board : String) : List Thread :=
  match site.listing board with
  | .answer listing => listing.threads
  | _ => []

/-- Whether a subscription is for a thread that its board lists. -/
def Site.isFor (site : Site) (s : Subscription) : Bool :=
  (site.threads s.board).any fun thread => s.filter.query.matches thread.comment

/-- Whether anyone is found to get files of a thread. -/
def hasTakers (store : Store) (answered : Int64 → Bool) (board : String) (thread : Thread) : Bool :=
  store.subscriptions.any fun s => s.board = board && s.filter.query.matches thread.comment &&
    answered s.id && !(linkedUsers store s.id).isEmpty

/-- The questions about a board. -/
def callsOn (site : Site) (store : Store) (answered : Int64 → Bool) (board : String) :
    List Call :=
  .list board ::
    ((store.subscriptions.filter fun s => s.board = board && site.isFor s).map
        (fun s => .lookup s.id) ++
      ((site.threads board).filter (hasTakers store answered board)).map
        fun thread => .fetch board thread.number)

/-- The questions about all boards that anyone subscribes to. -/
def callsDue (site : Site) (store : Store) (answered : Int64 → Bool) : List Call :=
  (store.subscriptions.map (·.board)).dedup.flatMap (callsOn site store answered)

/-- Whether an attempt has asked what is due, each question once, and at most
one question more, in the end: to move the cursor, and that forward. -/
def AsksDue (site : Site) (store : Store) (answered : Int64 → Bool) (calls : List Call) : Prop :=
  ∃ asked, asked.Perm (callsDue site store answered) ∧
    (calls = asked ∨
      ∃ timestamp, store.cursor < timestamp ∧ calls = asked ++ [.advance timestamp])

/-! ## §2. The questions of an errand. -/

/-- A listed thread hits a subscription just when the query of the subscription
matches the thread's comment. -/
theorem any_hits_contains (subscriptions : List Subscription) (listing : Listing)
    (position : Nat) :
    ((matched subscriptions listing).any fun entry => entry.hits.contains position) =
      (subscriptions[position]?.any fun s =>
        listing.threads.any fun thread => s.filter.query.matches thread.comment) := by
  -- both sides search, one through the entries and one through the threads, so each search answers
  -- for the other
  rw [Bool.eq_iff_iff, List.any_eq_true, Option.any_eq_true]
  constructor
  · rintro ⟨entry, hentry, hposition⟩
    obtain ⟨thread, hthread, rfl⟩ := List.mem_map.mp (List.mem_of_mem_filter hentry)
    obtain ⟨s, hs, hmatch⟩ := mem_hits_iff.mp (List.contains_iff_mem.mp hposition)
    exact ⟨s, hs, List.any_eq_true.mpr ⟨thread, hthread, hmatch⟩⟩
  · rintro ⟨s, hs, hany⟩
    obtain ⟨thread, hthread, hmatch⟩ := List.any_eq_true.mp hany
    have hmem : position ∈ hits subscriptions thread.comment := mem_hits_iff.mpr ⟨s, hs, hmatch⟩
    refine ⟨⟨thread.number, hits subscriptions thread.comment⟩, ?_, List.contains_iff_mem.mpr hmem⟩
    rw [matched, List.mem_filter]
    refine ⟨List.mem_map.mpr ⟨thread, hthread, rfl⟩, ?_⟩
    simpa using List.ne_nil_of_mem hmem

/-- What is picked from a list by position is what is picked from it. -/
theorem filterMap_range_filter {α β : Type} (p : α → Bool) (f : α → β) (l : List α) :
    ((List.range l.length).filter fun position => l[position]?.any p).filterMap
        (fun position => l[position]?.map f) = (l.filter p).map f := by
  induction l with
  | nil => rfl
  | cons a l ih =>
    rw [List.length_cons, List.range_succ_eq_map, List.filter_cons, List.filter_cons,
      List.filter_map]
    -- behind the first item the positions are one higher
    have hrest : (((List.range l.length).filter
        ((fun position => (a :: l)[position]?.any p) ∘ Nat.succ)).map Nat.succ).filterMap
          (fun position => (a :: l)[position]?.map f) = (l.filter p).map f := by
      rw [List.filterMap_map, ← ih]
      rfl
    rw [List.getElem?_cons_zero, Option.any_some]
    split
    · rw [List.filterMap_cons, List.map_cons, hrest]
      rfl
    · exact hrest

/-- Every subscription that a thread is for is looked up, and no other. -/
theorem lookups_needed (subscriptions : List Subscription) (listing : Listing) :
    lookups subscriptions (needed subscriptions (matched subscriptions listing)) =
      (subscriptions.filter fun s =>
        listing.threads.any fun thread => s.filter.query.matches thread.comment).map
          fun s => .lookup s.id := by
  rw [lookups, needed]
  simp only [any_hits_contains]
  exact filterMap_range_filter _ _ subscriptions

/-- Every thread that someone wants files of is fetched, and no other. -/
theorem fetches_wantedJobs (board : String) (known : Int64 → List User)
    (subscriptions : List Subscription) (listing : Listing) :
    fetches board (wantedJobs known subscriptions (matched subscriptions listing)) =
      (listing.threads.filter fun thread =>
        !(wants known subscriptions thread.comment).isEmpty).map
          fun thread => .fetch board thread.number := by
  -- numbering jobs does not change which threads they are for
  have hnumber : ∀ wanted : List (String × List Interest),
      fetches board (number wanted) = wanted.map fun entry => .fetch board entry.1 := by
    intro wanted
    rw [fetches, number, List.map_map]
    conv_rhs => rw [← List.zipIdx_map_fst 0 wanted, List.map_map]
    rfl
  rw [wantedJobs, jobs, hnumber]
  generalize husers : (needed subscriptions (matched subscriptions listing)).map
    (fun position => (position, knownAt known subscriptions position)) = users
  have hinterests : ∀ thread ∈ listing.threads,
      interests subscriptions users ⟨thread.number, hits subscriptions thread.comment⟩ =
        wants known subscriptions thread.comment := by
    intro thread hthread
    refine interests_eq_wants fun position hposition => ?_
    have hentry : Match.mk thread.number (hits subscriptions thread.comment) ∈
        matched subscriptions listing := by
      rw [matched, List.mem_filter]
      refine ⟨List.mem_map.mpr ⟨thread, hthread, rfl⟩, ?_⟩
      simpa using List.ne_nil_of_mem hposition
    rw [← husers]
    exact lookup_map_self _ (mem_needed hentry rfl hposition)
  -- a thread that no subscription is for has nobody who wants files of it
  have hnone : ∀ thread ∈ listing.threads, hits subscriptions thread.comment = [] →
      wants known subscriptions thread.comment = [] := by
    intro thread hthread hhits
    rw [← hinterests thread hthread, hhits]
    rfl
  rw [matched, List.filter_map, List.filter_map, List.filter_map, List.map_map, List.map_map,
    List.filter_filter]
  refine congrArg _ (List.filter_congr fun thread hthread => ?_)
  simp only [Function.comp_apply, hinterests thread hthread]
  cases hhits : (hits subscriptions thread.comment).isEmpty with
  | false => rw [Bool.not_false, Bool.and_true]
  | true =>
    rw [hnone thread hthread (List.isEmpty_iff.mp hhits)]
    rfl

/-- Who is known to want files of a thread is found for it. -/
theorem wants_ne_nil (store : Store) {answered : Int64 → Bool} {known : Int64 → List User}
    (hknown : ∀ id, known id = if answered id then store.subscribersOf id else [])
    (board : String) (thread : Thread) :
    (!(wants known (store.subscriptions.filter fun s => s.board = board)
      thread.comment).isEmpty) = hasTakers store answered board thread := by
  rw [Bool.eq_iff_iff, hasTakers, List.any_eq_true]
  -- a wanted file has a taker behind it, and every taker wants one
  constructor
  · intro hsome
    obtain ⟨i, hi⟩ := List.exists_mem_of_ne_nil _ (by simpa using hsome)
    obtain ⟨s, hs, huser⟩ := List.mem_flatMap.mp hi
    obtain ⟨user, huser, -⟩ := List.mem_map.mp huser
    rw [hknown] at huser
    split at huser
    · next hanswer =>
      rw [subscribersOf_eq_linkedUsers] at huser
      have hne := List.ne_nil_of_mem huser
      simp only [List.mem_filter, decide_eq_true_eq] at hs
      exact ⟨s, hs.1.1, by simp [hs.1.2, hs.2, hanswer, hne]⟩
    · cases huser
  · rintro ⟨s, hs, hall⟩
    simp only [Bool.and_eq_true, decide_eq_true_eq, Bool.not_eq_true', List.isEmpty_eq_false_iff]
      at hall
    obtain ⟨⟨⟨hboard, hmatch⟩, hanswer⟩, hsome⟩ := hall
    obtain ⟨user, huser⟩ := List.exists_mem_of_ne_nil _ hsome
    have hfound : user ∈ known s.id := by
      rwa [hknown, if_pos hanswer, subscribersOf_eq_linkedUsers]
    have hmem : Interest.mk user s.filter.kinds ∈ wants known
        (store.subscriptions.filter fun s => s.board = board) thread.comment :=
      List.mem_flatMap.mpr ⟨s, by simp [hs, hboard, hmatch], List.mem_map_of_mem hfound⟩
    simpa using List.ne_nil_of_mem hmem

/-- **What an errand is to ask, from its start, are the questions about its
board.**  Jobs and positions are gone from the right-hand side: it reads the
store and the site alone. -/
theorem Errand.toAsk_errandOf (site : Site) (store : Store) {answered : Int64 → Bool}
    {known : Int64 → List User}
    (hknown : ∀ id, known id = if answered id then store.subscribersOf id else [])
    (board : String) : (errandOf store.subscriptions board).toAsk site known =
      callsOn site store answered board := by
  have hfor : ∀ s : Subscription, (decide (s.board = board) && site.isFor s) =
      (decide (s.board = board) && (site.threads board).any fun thread =>
        s.filter.query.matches thread.comment) := by
    intro s
    by_cases hboard : s.board = board
    · rw [Site.isFor, hboard]
    · rw [decide_eq_false hboard, Bool.false_and, Bool.false_and]
  rw [callsOn]
  simp only [hfor]
  show Call.list board :: askedOf known _ (site.listing board) = _
  congr 1
  rw [Site.threads]
  -- only an answered listing calls for anything more than itself
  cases site.listing board with
  | answer listing =>
    show lookups _ _ ++ fetches _ _ = _
    rw [lookups_needed, fetches_wantedJobs, errandOf, List.filter_filter]
    simp only [wants_ne_nil store hknown]
    congr 2
    exact List.filter_congr fun s _ => Bool.and_comm _ _
  | failure => simp [askedOf]
  | collapse => simp [askedOf]

/-! ## §3. Steps that are made. -/

/-- Of the steps that come to an errand, those that it makes. -/
def Errand.made (site : Site) (registry : Registry σ) (state : σ) (cursor : UInt64)
    (width : Nat) : List Step → Errand → List Step
  | [], _ => []
  | step :: steps, errand =>
    match errand.step site registry state cursor width step with
    | none => made site registry state cursor width steps errand
    | some (next, _) => step :: made site registry state cursor width steps next

/-- Whether a step brings a thread that was asked for. -/
def Step.isFetched : Step → Bool
  | .fetched _ => true
  | _ => false

/-- The jobs of an errand whose threads are asked for and have not come. -/
def Errand.inAir (errand : Errand) : List Job :=
  match errand.stage with
  | .fetching _ running _ => running
  | _ => []

/-- The positions of the subscriptions that an errand still looks up. -/
def Errand.toLookUp (site : Site) (errand : Errand) : List Nat :=
  match errand.stage with
  | .waiting => needed errand.subscriptions
      (matched errand.subscriptions ⟨errand.board, site.threads errand.board⟩)
  | .listing => needed errand.subscriptions
      (matched errand.subscriptions ⟨errand.board, site.threads errand.board⟩)
  | .looking _ missing _ => missing
  | _ => []

section Made

variable {site : Site} {registry : Registry σ} {state : σ} {cursor : UInt64} {width : Nat}
  {errand next : Errand} {step : Step} {trace : Trace}

theorem Errand.inAir_fetchingOrDone (board : String) (subscriptions : List Subscription)
    (queued running : List Job) (tally : Tally) :
    inAir ⟨board, subscriptions, fetchingOrDone queued running tally⟩ = running := by
  rw [fetchingOrDone]
  split
  · next hempty =>
    rw [List.isEmpty_iff.mp (Bool.and_eq_true_iff.mp hempty).2]
    rfl
  · rfl

/-- An errand that has its listing has no fetch on its way yet. -/
theorem Errand.inAir_lookingOrFetching (board : String) (subscriptions : List Subscription)
    (found : List Match) (missing : List Nat) (users : Subscribers) :
    inAir ⟨board, subscriptions, lookingOrFetching cursor subscriptions found missing users⟩ =
      [] := by
  cases missing with
  | cons position missing => rfl
  | nil => rw [lookingOrFetching_nil, inAir_fetchingOrDone]

/-- After the lookups there is nothing left to look up. -/
theorem Errand.toLookUp_fetchingOrDone (board : String) (subscriptions : List Subscription)
    (queued running : List Job) (tally : Tally) :
    toLookUp site ⟨board, subscriptions, fetchingOrDone queued running tally⟩ = [] := by
  rw [fetchingOrDone]
  split <;> rfl

/-- An errand that has its listing is to look up what it misses, all of it. -/
theorem Errand.toLookUp_lookingOrFetching (board : String) (subscriptions : List Subscription)
    (found : List Match) (missing : List Nat) (users : Subscribers) :
    toLookUp site
      ⟨board, subscriptions, lookingOrFetching cursor subscriptions found missing users⟩ =
      missing := by
  cases missing with
  | cons position missing => rfl
  | nil => rw [lookingOrFetching_nil, toLookUp_fetchingOrDone]

/-- A thread is in the air from its question to its answer, and at most so many
are. -/
theorem Errand.Moves.length_inAir
    (h : errand.Moves site registry state cursor width step next trace)
    (hsane : errand.Sane) (hlives : next.stage ≠ .dead) (hwidth : errand.inAir.length ≤ width) :
    (next.inAir.length + if step.isFetched then 1 else 0) =
        (errand.inAir.length + if step == .fetch then 1 else 0) ∧
      next.inAir.length ≤ width := by
  cases h with
  | list => exact ⟨rfl, Nat.zero_le _⟩
  | listed board subscriptions =>
    have hnone : inAir ⟨board, subscriptions, takeListing cursor (site.listing board)
        ⟨board, subscriptions, .listing⟩⟩ = [] := by
      cases site.listing board with
      | answer listing => exact inAir_lookingOrFetching _ _ _ _ _
      | failure => rfl
      | collapse => rfl
    rw [hnone]
    exact ⟨rfl, Nat.zero_le _⟩
  | lookup =>
    rw [inAir_lookingOrFetching]
    exact ⟨rfl, Nat.zero_le _⟩
  | @fetch board subscriptions job queued running tally hroom =>
    have hmore : (running ++ [job]).length = running.length + 1 := List.length_append
    exact ⟨hmore, hmore.trans_le hroom⟩
  | @fetched board subscriptions queued running tally number job hjob =>
    -- the job that came back was in the air once
    have hback := (perm_running hjob (nodup_running hsane.2)).length_eq
    rw [List.length_cons] at hback
    have hless : (running.filter fun other => other.number != number).length ≤ width :=
      Nat.le_trans (Nat.le_of_lt (length_others_lt hjob)) hwidth
    cases hposts : site.posts board job.thread with
    | answer posts =>
      rw [takePosts, inAir_fetchingOrDone]
      exact ⟨hback.symm, hless⟩
    | failure =>
      rw [takePosts, inAir_fetchingOrDone]
      exact ⟨hback.symm, hless⟩
    | collapse =>
      rw [hposts] at hlives
      exact absurd rfl hlives

/-- A lookup is the only step that leaves fewer of them. -/
theorem Errand.Moves.count_toLookUp
    (h : errand.Moves site registry state cursor width step next trace) (position : Nat) :
    ((next.toLookUp site).count position + if step == .lookup position then 1 else 0) =
      (errand.toLookUp site).count position := by
  cases h with
  | list => rfl
  | listed board subscriptions =>
    have hnobody : needed subscriptions (matched subscriptions ⟨board, []⟩) = [] := by
      rw [needed]
      exact List.filter_eq_nil_iff.mpr (by simp [matched])
    cases hlisting : site.listing board with
    | answer listing =>
      rw [takeListing, toLookUp_lookingOrFetching]
      simp only [toLookUp, Site.threads, hlisting]
      rfl
    | failure =>
      simp only [toLookUp, Site.threads, hlisting, hnobody]
      rfl
    | collapse =>
      simp only [toLookUp, Site.threads, hlisting, hnobody]
      rfl
  | @lookup board subscriptions found missing users other s hs hmissing =>
    -- one of the missing is taken out, once
    rw [toLookUp_lookingOrFetching, toLookUp]
    have hperm := (List.perm_cons_erase hmissing).count_eq position
    rw [List.count_cons] at hperm
    rw [hperm]
    congr 1
    simp only [beq_iff_eq, Step.lookup.injEq]
  | fetch => rfl
  | @fetched board subscriptions queued running tally number job hjob =>
    cases site.posts board job.thread with
    | answer posts =>
      rw [takePosts, toLookUp_fetchingOrDone]
      rfl
    | failure =>
      rw [takePosts, toLookUp_fetchingOrDone]
      rfl
    | collapse => rfl

/-- A settled errand has nothing left to look up. -/
theorem Errand.toLookUp_of_isSettled (h : errand.isSettled = true) :
    errand.toLookUp site = [] := by
  obtain ⟨board, subscriptions, stage⟩ := errand
  cases stage with
  | reported tally => rfl
  | dead => rfl
  | _ => cases h

/-- What every step of a kind adds to a count, and every step of another kind
takes from it, all steps that are made do together. -/
theorem Errand.made_balance (hsite : site.Lives) (width : Nat) (count : Errand → Nat)
    (gains loses : Step → Bool) {P : Errand → Prop}
    (hstep : ∀ {errand next : Errand} {step : Step} {trace : Trace},
      errand.Moves site registry state cursor width step next trace →
      errand.Accounted site (registry.known state) cursor → next.stage ≠ .dead → P errand →
      ((count next + if loses step then 1 else 0) = count errand + if gains step then 1 else 0) ∧
        P next)
    (haccounted : errand.Accounted site (registry.known state) cursor) (h : P errand)
    (steps : List Step) :
    count (errand.follow site registry state cursor width steps).1 +
          (errand.made site registry state cursor width steps).countP loses =
        count errand + (errand.made site registry state cursor width steps).countP gains ∧
      P (errand.follow site registry state cursor width steps).1 := by
  -- a step that is not made changes neither the errand nor the list of those that are
  induction steps generalizing errand with
  | nil => exact ⟨rfl, h⟩
  | cons step steps ih =>
    cases hmade : errand.step site registry state cursor width step with
    | none =>
      rw [follow_cons_none hmade, made, hmade]
      exact ih haccounted h
    | some after =>
      obtain ⟨next, trace⟩ := after
      have hmoves := Errand.step_eq_some_iff.mp hmade
      have hnext := hmoves.accounted hsite haccounted
      obtain ⟨hcount, hkept⟩ := hstep hmoves haccounted hnext.ne_dead h
      obtain ⟨hall, hlast⟩ := ih hnext hkept
      rw [follow_cons_some hmade, made, hmade]
      refine ⟨?_, hlast⟩
      rw [List.countP_cons, List.countP_cons]
      dsimp only
      omega

end Made

/-- Of the steps that come to a cycle, those that the errand at a position
makes. -/
def Cycle.madeAt (site : Site) (registry : Registry σ) (state : σ) (position : Nat)
    (steps : List (Nat × Step)) (cycle : Cycle) : List Step :=
  match cycle.errands[position]? with
  | none => []
  | some errand =>
    errand.made site registry state cycle.cursor cycle.width (ownSteps position steps)

/-- How a cycle asks by some steps.  No errand has more than `width` threads in
the air; when all are settled, each has looked up every subscription once that
a thread is for, and no other. -/
structure Cycle.Measured (site : Site) (registry : Registry σ) (state : σ) (width : Nat)
    (cycle : Cycle) (steps : List (Nat × Step)) : Prop where
  inAir (position : Nat) : (cycle.madeAt site registry state position steps).count .fetch ≤
    (cycle.madeAt site registry state position steps).countP Step.isFetched + width
  lookups : (cycle.follow site registry state steps).isSettled = true →
    ∀ position errand, cycle.errands[position]? = some errand →
      ∀ index s, errand.subscriptions[index]? = some s →
        (cycle.madeAt site registry state position steps).count (.lookup index) =
          if site.isFor s then 1 else 0

/-- A subscription is needed once if a thread is for it. -/
theorem count_needed {subscriptions : List Subscription} (listing : Listing) {position : Nat}
    {s : Subscription} (hs : subscriptions[position]? = some s) :
    (needed subscriptions (matched subscriptions listing)).count position =
      if listing.threads.any fun thread => s.filter.query.matches thread.comment then 1 else 0 := by
  have hnodup : (needed subscriptions (matched subscriptions listing)).Nodup :=
    List.nodup_range.filter _
  have hmem : position ∈ needed subscriptions (matched subscriptions listing) ↔
      (listing.threads.any fun thread => s.filter.query.matches thread.comment) = true := by
    rw [needed, List.mem_filter, List.mem_range, any_hits_contains, hs, Option.any_some]
    exact and_iff_right (List.getElem?_eq_some_iff.mp hs).1
  rw [hnodup.count]
  simp only [hmem]

section Opening

variable {site : Site} {store : Store} {width position : Nat} {errand : Errand}

/-- The errands of a new cycle wait, with their promise untouched, and each has
the subscriptions of its own board. -/
theorem Cycle.of_getElem?_opening (known : Int64 → List User)
    (herrand : (opening store width).errands[position]? = some errand) :
    errand.Accounted site known store.cursor ∧ errand.stage = .waiting ∧
      ∀ (index : Nat) s, errand.subscriptions[index]? = some s → s.board = errand.board := by
  have hmem := List.mem_of_getElem? herrand
  refine ⟨(accounted_opening site known store width).errands errand hmem, stage_opening hmem,
    fun index s hs => ?_⟩
  obtain ⟨board, -, rfl⟩ := List.mem_map.mp hmem
  exact of_decide_eq_true (List.mem_filter.mp (List.mem_of_getElem? hs)).2

/-- However the answers come, a cycle keeps to the measure. -/
theorem Cycle.measured_opening (hsite : site.Lives) (registry : Registry σ) (state : σ)
    (store : Store) (width : Nat) (steps : List (Nat × Step)) :
    (opening store width).Measured site registry state (max 1 width) steps := by
  refine ⟨fun position => ?_, fun hsettled position errand herrand index s hs => ?_⟩
  · cases herrand : (opening store width).errands[position]? with
    | none =>
      rw [madeAt, herrand]
      exact Nat.zero_le _
    | some errand =>
      obtain ⟨haccounted, hwaiting, -⟩ := of_getElem?_opening (registry.known state) herrand
      have hnone : errand.inAir.length = 0 := by rw [Errand.inAir, hwaiting]; rfl
      -- what was asked for has come or is in the air
      obtain ⟨hbalance, hmost⟩ := Errand.made_balance hsite (max 1 width)
        (fun errand => errand.inAir.length) (· == .fetch) Step.isFetched
        (P := fun errand => errand.inAir.length ≤ max 1 width)
        (fun hmoves haccounted hlives hmost => hmoves.length_inAir haccounted.sane hlives hmost)
        haccounted (by rw [hnone]; exact Nat.zero_le _) (ownSteps position steps)
      rw [hnone, Nat.zero_add] at hbalance
      rw [madeAt, herrand]
      exact (Nat.le_of_eq hbalance.symm).trans
        ((Nat.add_comm _ _).le.trans (Nat.add_le_add_left hmost _))
  · obtain ⟨haccounted, hwaiting, hboard⟩ := of_getElem?_opening (registry.known state) herrand
    obtain ⟨hbalance, -⟩ := Errand.made_balance hsite (max 1 width)
      (fun errand => (errand.toLookUp site).count index) (fun _ => false) (· == .lookup index)
      (P := fun _ => True) (fun hmoves _ _ _ => ⟨hmoves.count_toLookUp index, trivial⟩)
      haccounted trivial (ownSteps position steps)
    have hlast := List.all_eq_true.mp hsettled _
      (List.mem_of_getElem? (getElem?_follow site registry state herrand steps))
    have hbegun : errand.toLookUp site = needed errand.subscriptions
        (matched errand.subscriptions ⟨errand.board, site.threads errand.board⟩) := by
      rw [Errand.toLookUp, hwaiting]
    have hdone : Errand.toLookUp site (errand.follow site registry state store.cursor
        (max 1 width) (ownSteps position steps)).1 = [] := Errand.toLookUp_of_isSettled hlast
    rw [hdone, hbegun, count_needed _ hs, List.count_nil, Nat.zero_add, List.countP_false]
      at hbalance
    rw [madeAt, herrand, Site.isFor, hboard index s hs]
    exact hbalance

end Opening

/-! ## §4. The questions of a cycle. -/

/-- A cycle keeps the cursor it has read at its start. -/
theorem Cycle.cursor_follow (site : Site) (registry : Registry σ) (state : σ)
    (steps : List (Nat × Step)) (cycle : Cycle) :
    (cycle.follow site registry state steps).cursor = cycle.cursor := by
  refine follow_of_step (P := fun last => last.cursor = cycle.cursor)
    (fun hstep hcursor => ?_) rfl steps
  obtain ⟨mover, after, trace, -, -, rfl⟩ := Cycle.step_eq_some_iff.mp hstep
  exact hcursor

/-- A settled cycle has asked what is due. -/
theorem Cycle.calls_of_isSettled {site : Site} {registry : Registry σ} {state : σ} {store : Store}
    (hsite : site.Lives) (hreads : registry.Reads state store) {width : Nat}
    {steps : List (Nat × Step)}
    (hsettled : ((opening store width).follow site registry state steps).isSettled = true) :
    ((opening store width).follow site registry state steps).trace.calls.Perm
      (callsDue site store (registry.answers state)) := by
  have hcalls := trace_follow site registry state Trace.calls (fun _ _ => rfl) steps
    (opening store width)
  have hboards : (boardsOf store.subscriptions).flatMap
      (callsOn site store (registry.answers state)) =
        (opening store width).errands.flatMap (·.toAsk site (registry.known state)) := by
    rw [opening, List.flatMap_map]
    exact List.flatMap_congr fun board _ =>
      (Errand.toAsk_errandOf site store hreads.known_eq board).symm
  have hpositions : List.range (opening store width).errands.length =
      (opening store width).errands.zipIdx.map (·.2) := by
    rw [List.zipIdx_map_snd, List.range_eq_range']
  have herrands : (opening store width).errands.flatMap (·.toAsk site (registry.known state)) =
      (opening store width).errands.zipIdx.flatMap (·.1.toAsk site (registry.known state)) := by
    conv_lhs => rw [← List.zipIdx_map_fst 0 (opening store width).errands, List.flatMap_map]
  refine hcalls.trans (List.Perm.trans ?_ ((boardsOf_perm store.subscriptions).flatMap_right _))
  rw [hboards, hpositions, List.flatMap_map, herrands]
  refine List.Perm.flatMap_left _ fun entry hentry => ?_
  obtain ⟨errand, position⟩ := entry
  -- each errand is settled, and has asked what it had to
  have herrand := List.mem_zipIdx_iff_getElem?.mp hentry
  obtain ⟨haccounted, -, -⟩ := of_getElem?_opening (registry.known state) herrand
  obtain ⟨-, hasked, -, -⟩ := haccounted.follow (max 1 width) hsite (ownSteps position steps)
  have hlast := List.all_eq_true.mp hsettled _
    (List.mem_of_getElem? (getElem?_follow site registry state herrand steps))
  have hdone : Errand.toAsk site (registry.known state) _ = [] := Errand.toAsk_of_isSettled hlast
  rw [share_eq herrand]
  rwa [← List.append_nil (Trace.calls _), ← hdone]

/-- What a cycle asks when it ends: nothing more, unless it has seen a newer
post. -/
theorem Cycle.commit_calls (registry : Registry σ) (state : σ) (cycle : Cycle) :
    (cycle.commit registry state).2.1.calls = cycle.trace.calls ++
      if cycle.cursor < cycle.newest then [.advance cycle.newest] else [] := by
  rw [commit]
  split
  · split <;> rfl
  · exact (List.append_nil _).symm

/-- A cycle that has come to its end has asked what is due. -/
theorem Cycle.commit_asksDue {site : Site} {registry : Registry σ} {state : σ} {store : Store}
    (hsite : site.Lives) (hreads : registry.Reads state store) {width : Nat}
    {steps : List (Nat × Step)}
    (hsettled : ((opening store width).follow site registry state steps).isSettled = true)
    (last : σ) : AsksDue site store (registry.answers state) (((opening store width).follow site
      registry state steps).commit registry last).2.1.calls := by
  refine ⟨_, calls_of_isSettled hsite hreads hsettled, ?_⟩
  have hcursor : ((opening store width).follow site registry state steps).cursor = store.cursor :=
    cursor_follow _ _ _ steps _
  rw [commit_calls]
  split
  · next hnewer => exact .inr ⟨_, hcursor ▸ hnewer, rfl⟩
  · exact .inl (List.append_nil _)

/-! ## §5. The questions of an attempt. -/

/-- One cycle over a store's subscriptions, on a site where nobody dies.  In
whatever order the answers come, no board ever has more threads in the air than
allowed, and by the time all errands are settled each subscription that a
thread is for was looked up once, and no other (`Cycle.Measured`).  An attempt
that meets no deadline goes by such steps, and by its end has asked what is
due; on a clock, an attempt that is over before its deadline has. -/
theorem cycle_asks_due {setting : Setting σ} {state : σ} {store : Store}
    (hsite : setting.site.Lives) (hreads : setting.registry.Reads state store) :
    let first := Cycle.opening store setting.limits.maxConcurrent
    let due := AsksDue setting.site store (setting.registry.answers state)
    (∀ steps, first.Measured setting.site setting.registry state
      (max 1 setting.limits.maxConcurrent) steps) ∧
    (∀ events : List Event, (∀ event ∈ events, event.isExpiry = false) →
      (∀ cycle, ((Gate.free 1 state).after (fun _ => setting) events).phase 0 = .inside cycle →
        ∃ steps, cycle = first.follow setting.site setting.registry state steps) ∧
      ∀ result trace,
        ((Gate.free 1 state).after (fun _ => setting) events).phase 0 = .returned result trace →
        due trace.calls ∧ ∃ steps,
          (first.follow setting.site setting.registry state steps).isSettled = true ∧
          ((first.follow setting.site setting.registry state steps).commit setting.registry
            state).2.1 = trace) ∧
    ((play setting 1 state).1 < setting.limits.deadline → ∃ result trace,
      (play setting 1 state).2.phase 0 = .returned result trace ∧ due trace.calls) := by
  have hstart := Cycle.start_eq hreads setting.limits.maxConcurrent
  refine ⟨fun steps => Cycle.measured_opening hsite _ _ _ _ steps,
    fun events hevents => ?_, fun hin => ?_⟩
  · -- without a deadline the attempt ends when its errands are settled, and not before
    have hwalks : Gate.Walks setting state _ false _ :=
      Gate.walks_after hstart false fun event hevent hlate => by
        rw [hevents event hevent] at hlate
        cases hlate
    generalize (Gate.free 1 state).after (fun _ => setting) events = gate at hwalks
    refine ⟨fun cycle hinside => ?_, fun result trace hreturned => ?_⟩
    · obtain ⟨steps, hsteps, -⟩ := hwalks.eq_inside hinside
      exact ⟨steps, hsteps⟩
    · cases hwalks with
      | outside => cases hreturned
      | inside => cases hreturned
      | @returned steps _ _ last hsettled hcommit =>
        cases hreturned
        have hasks := Cycle.commit_asksDue hsite hreads hsettled state
        rw [hcommit] at hasks
        exact ⟨hasks, steps, hsettled, by rw [hcommit]⟩
      | givenUp steps hlate => cases hlate
  · obtain ⟨timed, hfinishes, -⟩ := play_finishes hstart hin
    exact ⟨_, _, hfinishes.returned, Cycle.commit_asksDue hsite hreads hfinishes.settled state⟩

/-- One board with one thread and one file: the board is listed, the one
subscription looked up and the one thread fetched, when the cycle runs by the
clock. -/
theorem oneFile_asks :
    callsDue oneFile.site oneFan (oneFile.registry.answers oneFan) =
      [.list "b", .lookup 1, .fetch "b" "7"] ∧
    ∃ result trace, (play oneFile.setting 1 oneFan).2.phase 0 = .returned result trace ∧
      AsksDue oneFile.site oneFan (oneFile.registry.answers oneFan) trace.calls := by
  have hdue : callsDue oneFile.site oneFan (oneFile.registry.answers oneFan) =
      [.list "b", .lookup 1, .fetch "b" "7"] := by
    decide +kernel
  have hsite : oneFile.setting.site.Lives := Script.site_lives (by decide) (by decide)
  have hreads : oneFile.setting.registry.Reads oneFan oneFan :=
    Script.registry_reads rfl rfl oneFan
  have hin : (play oneFile.setting 1 oneFan).1 < oneFile.setting.limits.deadline := by
    decide +kernel
  exact ⟨hdue, (cycle_asks_due hsite hreads).2.2 hin⟩

end BoardRelay.Crawl
