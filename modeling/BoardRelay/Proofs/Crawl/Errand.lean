/-
  BoardRelay.Proofs.Crawl.Errand
  ────────────────────────────────
  The steps of an errand as a relation, one rule for each, and what they
  keep and use up.

  An errand is accounted for if what it has sent and what its jobs still
  have to send are together what its board was promised.  Every step keeps
  that, on a site where nobody dies (`Errand.Moves.accounted`); some step
  can always be made until the errand is settled (`Errand.Sane.exists_moves`);
  and every step leaves less to do (`Errand.Moves.todo_lt`).
-/
import BoardRelay.Proofs.Crawl.Owed

namespace BoardRelay.Crawl

variable {σ : Type}

/-! ## §1. Steps as a relation. -/

/-- The users that a registry finds for a subscription; none if it fails. -/
def Registry.known (registry : Registry σ) (state : σ) (id : Int64) : List User :=
  match registry.subscribers id state with
  | .ok known => known
  | .error _ => []

/-- The step that takes an errand to another, leaving a trace. -/
inductive Errand.Moves (site : Site) (registry : Registry σ) (state : σ) (cursor : UInt64)
    (width : Nat) : Errand → Step → Errand → Trace → Prop where
  | list (board : String) (subscriptions : List Subscription) :
    Moves site registry state cursor width
      ⟨board, subscriptions, .waiting⟩ .list ⟨board, subscriptions, .listing⟩
      (.call (.list board))
  | listed (board : String) (subscriptions : List Subscription) :
    Moves site registry state cursor width
      ⟨board, subscriptions, .listing⟩ .listed
      ⟨board, subscriptions, Errand.takeListing cursor (site.listing board)
        ⟨board, subscriptions, .listing⟩⟩ .none
  | lookup (board : String) {subscriptions : List Subscription} {found : List Match}
      {missing : List Nat} {users : Subscribers} {position : Nat} {s : Subscription}
      (hs : subscriptions[position]? = some s) (hmissing : position ∈ missing) :
    Moves site registry state cursor width
      ⟨board, subscriptions, .looking found missing users⟩ (.lookup position)
      ⟨board, subscriptions, Errand.lookingOrFetching cursor subscriptions found
        (missing.erase position) (users ++ [(position, registry.known state s.id)])⟩
      (.call (.lookup s.id))
  | fetch (board : String) (subscriptions : List Subscription) (job : Job) (queued : List Job)
      {running : List Job} (tally : Tally) (hwidth : running.length < width) :
    Moves site registry state cursor width
      ⟨board, subscriptions, .fetching (job :: queued) running tally⟩ .fetch
      ⟨board, subscriptions, .fetching queued (running ++ [job]) tally⟩
      (.call (.fetch board job.thread))
  | fetched (board : String) (subscriptions : List Subscription) (queued : List Job)
      {running : List Job} (tally : Tally) {number : Nat} {job : Job}
      (hjob : running.find? (fun job => job.number = number) = some job) :
    Moves site registry state cursor width
      ⟨board, subscriptions, .fetching queued running tally⟩ (.fetched number)
      ⟨board, subscriptions, (Errand.takePosts site cursor job (site.posts board job.thread)
        queued (running.filter fun other => other.number != number) tally).1⟩
      (Errand.takePosts site cursor job (site.posts board job.thread)
        queued (running.filter fun other => other.number != number) tally).2

/-- **The rules are the steps**: an errand can make a step exactly by one of
them. -/
theorem Errand.step_eq_some_iff {site : Site} {registry : Registry σ} {state : σ}
    {cursor : UInt64} {width : Nat} {errand next : Errand} {step : Step} {trace : Trace} :
    errand.step site registry state cursor width step = some (next, trace) ↔
      errand.Moves site registry state cursor width step next trace := by
  constructor
  -- Each step has one stage that allows it; the others answer nothing.
  · intro h
    obtain ⟨board, subscriptions, stage⟩ := errand
    cases step with
    | list =>
      cases stage <;> simp only [Errand.step, reduceCtorEq, Option.some.injEq, Prod.mk.injEq] at h
      obtain ⟨rfl, rfl⟩ := h
      exact .list board subscriptions
    | listed =>
      cases stage <;> simp only [Errand.step, reduceCtorEq, Option.some.injEq, Prod.mk.injEq] at h
      obtain ⟨rfl, rfl⟩ := h
      exact .listed board subscriptions
    | lookup position =>
      cases stage <;> simp only [Errand.step, reduceCtorEq] at h
      split at h
      · next s hstage hs =>
        cases hstage
        split at h
        · next hmissing =>
          cases h
          exact .lookup board hs (List.contains_iff_mem.mp hmissing)
        · cases h
      · cases h
    | fetch =>
      cases stage <;> simp only [Errand.step, reduceCtorEq] at h
      split at h
      · next hstage =>
        cases hstage
        split at h
        · next hwidth =>
          cases h
          exact .fetch board subscriptions _ _ _ hwidth
        · cases h
      · cases h
    | fetched number =>
      cases stage <;> simp only [Errand.step, reduceCtorEq] at h
      split at h
      · next job hjob =>
        cases h
        exact .fetched board subscriptions _ _ hjob
      · cases h
  · -- the other way round, each rule is the branch of its step
    intro h
    cases h with
    | list => rfl
    | listed => rfl
    | lookup board hs hmissing =>
      simp only [Errand.step, hs, List.contains_iff_mem.mpr hmissing, if_true]
      rfl
    | fetch board subscriptions job queued tally hwidth =>
      simp only [Errand.step, hwidth, if_true]
    | fetched board subscriptions queued tally hjob =>
      simp only [Errand.step, hjob]

theorem Errand.Moves.board_eq {site : Site} {registry : Registry σ} {state : σ} {cursor : UInt64}
    {width : Nat} {errand next : Errand} {step : Step} {trace : Trace}
    (h : errand.Moves site registry state cursor width step next trace) :
    next.board = errand.board ∧ next.subscriptions = errand.subscriptions := by
  cases h <;> exact ⟨rfl, rfl⟩

/-! ## §2. Less to do with every step. -/

/-- How many threads a board lists. -/
def threadCount (site : Site) (board : String) : Nat :=
  match site.listing board with
  | .answer listing => listing.threads.length
  | _ => 0

/-- A bound on the steps that an errand still makes. -/
def Errand.todo (site : Site) (errand : Errand) : Nat :=
  match errand.stage with
  | .waiting => errand.subscriptions.length + 2 * threadCount site errand.board + 3
  | .listing => errand.subscriptions.length + 2 * threadCount site errand.board + 2
  | .looking found missing _ => missing.length + 2 * found.length + 1
  | .fetching queued running _ => 2 * queued.length + running.length
  | _ => 0

/-- A listing has no more matches than threads. -/
theorem length_matched_le (subscriptions : List Subscription) (listing : Listing) :
    (matched subscriptions listing).length ≤ listing.threads.length := by
  have hle := List.length_filter_le (fun found : Match => !found.hits.isEmpty)
    (listing.threads.map fun thread => ⟨thread.number, hits subscriptions thread.comment⟩)
  rwa [List.length_map] at hle

/-- No more subscribers are needed than there are subscriptions. -/
theorem length_needed_le (subscriptions : List Subscription) (found : List Match) :
    (needed subscriptions found).length ≤ subscriptions.length := by
  have hle := List.length_filter_le
    (fun position => found.any fun entry => entry.hits.contains position)
    (List.range subscriptions.length)
  rwa [List.length_range] at hle

/-- No more jobs come of a listing than matches. -/
theorem length_jobs_le (subscriptions : List Subscription) (users : Subscribers)
    (found : List Match) : (jobs subscriptions users found).length ≤ found.length := by
  have hle := List.length_filter_le
    (fun wanted : String × List Interest => !wanted.2.isEmpty)
    (found.map fun entry => (entry.thread, interests subscriptions users entry))
  rw [List.length_map] at hle
  rwa [jobs, number, List.length_map, List.length_zipIdx]

/-- With its jobs known, an errand has at most two steps for each in the queue
and one for each in the air. -/
theorem Errand.todo_fetchingOrDone_le (site : Site) (board : String)
    (subscriptions : List Subscription) (queued running : List Job) (tally : Tally) :
    Errand.todo site ⟨board, subscriptions, fetchingOrDone queued running tally⟩ ≤
      2 * queued.length + running.length := by
  rw [fetchingOrDone]
  split
  · exact Nat.zero_le _
  · exact Nat.le_refl _

theorem Errand.lookingOrFetching_nil (cursor : UInt64) (subscriptions : List Subscription)
    (found : List Match) (users : Subscribers) :
    lookingOrFetching cursor subscriptions found [] users =
      fetchingOrDone (jobs subscriptions users found) []
        { Tally.blank cursor with matched := (jobs subscriptions users found).length } :=
  rfl

/-- With its matches known, it has at most a lookup for each that is missing,
and two steps for each match. -/
theorem Errand.todo_lookingOrFetching_le (site : Site) (board : String) (cursor : UInt64)
    (subscriptions : List Subscription) (found : List Match) (missing : List Nat)
    (users : Subscribers) :
    Errand.todo site
        ⟨board, subscriptions, lookingOrFetching cursor subscriptions found missing users⟩ ≤
      missing.length + 2 * found.length + 1 := by
  -- without a lookup left the errand has its jobs already
  cases missing with
  | nil =>
    have hjobs := length_jobs_le subscriptions users found
    have hle := todo_fetchingOrDone_le site board subscriptions (jobs subscriptions users found) []
      { Tally.blank cursor with matched := (jobs subscriptions users found).length }
    rw [lookingOrFetching_nil]
    rw [List.length_nil] at hle ⊢
    omega
  | cons position missing => exact Nat.le_refl _

/-- When a job has come back, fewer are in the air. -/
theorem length_others_lt {running : List Job} {number : Nat} {job : Job}
    (hjob : running.find? (fun job => job.number = number) = some job) :
    (running.filter fun other => other.number != number).length < running.length := by
  refine List.length_filter_lt_length_iff_exists.mpr ⟨job, List.mem_of_find?_eq_some hjob, ?_⟩
  simpa using List.find?_some hjob

/-- Each step leaves an errand less to do. -/
theorem Errand.Moves.todo_lt {site : Site} {registry : Registry σ} {state : σ} {cursor : UInt64}
    {width : Nat} {errand next : Errand} {step : Step} {trace : Trace}
    (h : errand.Moves site registry state cursor width step next trace) :
    next.todo site < errand.todo site := by
  cases h with
  | list board subscriptions =>
    simp only [Errand.todo]
    omega
  | listed board subscriptions =>
    cases hlisting : site.listing board with
    | answer listing =>
      -- a thread costs two steps, a subscription one lookup
      have hle := todo_lookingOrFetching_le site board cursor subscriptions
        (matched subscriptions listing) (needed subscriptions (matched subscriptions listing)) []
      have hneeded := length_needed_le subscriptions (matched subscriptions listing)
      have hmatched := length_matched_le subscriptions listing
      have hcount : threadCount site board = listing.threads.length := by
        rw [threadCount, hlisting]
      rw [takeListing]
      simp only [todo] at hle ⊢
      omega
    | failure =>
      simp only [takeListing, todo]
      omega
    | collapse =>
      simp only [takeListing, todo]
      omega
  | @lookup board subscriptions found missing users position s hs hmissing =>
    -- one lookup fewer, whether or not it was the last
    have hle := todo_lookingOrFetching_le site board cursor subscriptions found
      (missing.erase position) (users ++ [(position, registry.known state s.id)])
    have herase := List.length_erase_of_mem hmissing
    have hpos := List.length_pos_of_mem hmissing
    simp only [todo] at hle ⊢
    omega
  | fetch board subscriptions job queued tally hwidth =>
    simp only [todo, List.length_cons, List.length_append, List.length_nil]
    omega
  | @fetched board subscriptions queued running tally number job hjob =>
    have hothers := length_others_lt hjob
    have hle := fun after => todo_fetchingOrDone_le site board subscriptions queued
      (running.filter fun other => other.number != number) after
    cases hposts : site.posts board job.thread with
    | answer posts =>
      refine Nat.lt_of_le_of_lt (hle _) ?_
      simp only [todo]
      omega
    | failure =>
      refine Nat.lt_of_le_of_lt (hle _) ?_
      simp only [todo]
      omega
    | collapse =>
      simp only [takePosts, todo]
      omega

/-! ## §3. What is sent and what remains. -/

/-- A site whose answers nobody dies of. -/
structure Site.Lives (site : Site) : Prop where
  listing : ∀ board, site.listing board ≠ .collapse
  posts : ∀ board thread, site.posts board thread ≠ .collapse

/-- What an errand has sent so far. -/
def Errand.sent (errand : Errand) : List Send :=
  match errand.stage with
  | .fetching _ _ tally => tally.sends
  | .reported tally => tally.sends
  | _ => []

/-- What an errand has to send, if `known` tells the users of a
subscription. -/
def Errand.promised (site : Site) (known : Int64 → List User) (cursor : UInt64)
    (errand : Errand) : List Send :=
  match site.listing errand.board with
  | .answer listing =>
    listing.threads.flatMap fun thread =>
      jobSends site cursor errand.board thread.number
        (wants known errand.subscriptions thread.comment)
  | _ => []

/-- What jobs on a board have to send. -/
def allSends (site : Site) (cursor : UInt64) (board : String) (jobs : List Job) : List Send :=
  jobs.flatMap fun job => jobSends site cursor board job.thread job.interests

/-- What was found for positions is what is known there. -/
def Truthful (known : Int64 → List User) (subscriptions : List Subscription)
    (users : Subscribers) : Prop :=
  ∀ entry ∈ users, entry.2 = knownAt known subscriptions entry.1

/-- An errand that has lost nothing: what it sent and what its jobs have to
send are what its board was promised. -/
def Errand.Accounted (site : Site) (known : Int64 → List User) (cursor : UInt64)
    (errand : Errand) : Prop :=
  match errand.stage with
  | .waiting => True
  | .listing => True
  | .looking found missing users =>
    (∃ listing, site.listing errand.board = .answer listing ∧
      found = matched errand.subscriptions listing) ∧
    missing ≠ [] ∧ (∀ position ∈ missing, position < errand.subscriptions.length) ∧
    Truthful known errand.subscriptions users ∧
    ∀ position ∈ needed errand.subscriptions found,
      position ∈ missing ∨ position ∈ users.map (·.1)
  | .fetching queued running tally =>
    queued ++ running ≠ [] ∧ ((queued ++ running).map (·.number)).Nodup ∧
    (tally.sends ++ allSends site cursor errand.board (queued ++ running)).Perm
      (errand.promised site known cursor)
  | .reported tally => tally.sends.Perm (errand.promised site known cursor)
  | .dead => False

/-- What is looked up is what is known, if all that was found is true. -/
theorem Truthful.lookup_eq {known : Int64 → List User} {subscriptions : List Subscription}
    {users : Subscribers} (husers : Truthful known subscriptions users) {position : Nat}
    (hposition : position ∈ users.map (·.1)) :
    users.lookup position = some (knownAt known subscriptions position) := by
  induction users with
  | nil => cases hposition
  | cons entry users ih =>
    obtain ⟨first, found⟩ := entry
    have hfound : found = knownAt known subscriptions first := husers _ List.mem_cons_self
    -- the first entry for the position answers, and every entry is true
    by_cases hfirst : position = first
    · rw [hfirst, hfound, List.lookup_cons_self]
    · rw [List.lookup_cons, beq_eq_false_iff_ne.mpr hfirst]
      refine ih (fun other hother => husers other (List.mem_cons_of_mem _ hother)) ?_
      exact (List.mem_cons.mp hposition).resolve_left hfirst

/-- What was found now is true. -/
theorem Truthful.looked {known : Int64 → List User} {subscriptions : List Subscription}
    {users : Subscribers} (h : Truthful known subscriptions users) {position : Nat}
    {s : Subscription} (hs : subscriptions[position]? = some s) :
    Truthful known subscriptions (users ++ [(position, known s.id)]) := by
  intro entry hentry
  rcases List.mem_append.mp hentry with hold | hnew
  · exact h entry hold
  · rw [List.mem_singleton.mp hnew, knownAt, hs]

/-- What is still needed is still missing, unless it was found now. -/
theorem missing_or_looked {missing : List Nat} {users : Subscribers} {other : Nat}
    (h : other ∈ missing ∨ other ∈ users.map (·.1)) (position : Nat) (found : List User) :
    other ∈ missing.erase position ∨ other ∈ (users ++ [(position, found)]).map (·.1) := by
  rw [List.map_append, List.mem_append]
  by_cases heq : other = position
  · exact .inr (.inr (by simp [heq]))
  · rcases h with hwaiting | hlooked
    · exact .inl ((List.mem_erase_of_ne heq).mpr hwaiting)
    · exact .inr (.inl hlooked)

/-- The jobs of an errand have numbers of their own. -/
theorem nodup_number_jobs (subscriptions : List Subscription) (users : Subscribers)
    (found : List Match) : ((jobs subscriptions users found).map (·.number)).Nodup := by
  rw [jobs, number, List.map_map]
  show (List.map Prod.snd _).Nodup
  rw [List.zipIdx_map_snd]
  exact List.nodup_range'

/-- The jobs in the air have numbers of their own, too. -/
theorem nodup_running {queued running : List Job}
    (h : ((queued ++ running).map (·.number)).Nodup) : (running.map (·.number)).Nodup := by
  rw [List.map_append] at h
  exact (List.nodup_append.mp h).2.1

/-- A job that came back and the other jobs in the air. -/
theorem perm_running {running : List Job} {number : Nat} {job : Job}
    (hjob : running.find? (fun job => job.number = number) = some job)
    (hnodup : (running.map (·.number)).Nodup) :
    running.Perm (job :: running.filter fun other => other.number != number) := by
  induction running with
  | nil => cases hjob
  | cons first running ih =>
    rw [List.map_cons, List.nodup_cons] at hnodup
    -- A number is found once, so that only the job itself is filtered out.
    by_cases hfirst : first.number = number
    · rw [List.find?_cons_of_pos (by simpa using hfirst)] at hjob
      cases hjob
      have hothers : running.filter (fun other => other.number != number) = running := by
        refine List.filter_eq_self.mpr fun other hother => ?_
        have hne : other.number ≠ number := fun heq =>
          hnodup.1 (List.mem_map.mpr ⟨other, hother, heq.trans hfirst.symm⟩)
        simpa using hne
      rw [List.filter_cons_of_neg (by simpa using hfirst), hothers]
    · rw [List.find?_cons_of_neg (by simpa using hfirst)] at hjob
      rw [List.filter_cons_of_pos (by simpa using hfirst)]
      exact ((ih hjob hnodup.2).cons first).trans (List.Perm.swap _ _ _)

/-- **The account while fetching**: an errand is done when no job is left, and
then what it has sent is all that was promised. -/
theorem Errand.accounted_fetchingOrDone {site : Site} {known : Int64 → List User}
    {cursor : UInt64} {board : String} {subscriptions : List Subscription}
    {queued running : List Job} {tally : Tally}
    (hnodup : ((queued ++ running).map (·.number)).Nodup)
    (hsends : (tally.sends ++ allSends site cursor board (queued ++ running)).Perm
      (Errand.promised site known cursor ⟨board, subscriptions, .waiting⟩)) :
    Errand.Accounted site known cursor
      ⟨board, subscriptions, fetchingOrDone queued running tally⟩ := by
  rw [fetchingOrDone]
  split
  · -- nothing is queued or running, so all that was promised has been sent
    next hempty =>
    obtain ⟨hqueued, hrunning⟩ := Bool.and_eq_true_iff.mp hempty
    rw [List.isEmpty_iff] at hqueued hrunning
    subst hqueued hrunning
    show tally.sends.Perm (promised site known cursor ⟨board, subscriptions, .waiting⟩)
    simpa [allSends] using hsends
  · next hsome =>
    refine ⟨fun hnil => hsome ?_, hnodup, hsends⟩
    obtain ⟨hqueued, hrunning⟩ := List.append_eq_nil_iff.mp hnil
    rw [hqueued, hrunning]
    rfl

/-- **The account while looking up**: once nobody is missing the jobs are made,
and they have to send what was promised. -/
theorem Errand.accounted_lookingOrFetching {site : Site} {known : Int64 → List User}
    {cursor : UInt64} {board : String} {subscriptions : List Subscription} {listing : Listing}
    {missing : List Nat} {users : Subscribers}
    (hlisting : site.listing board = .answer listing)
    (hmissing : ∀ position ∈ missing, position < subscriptions.length)
    (husers : Truthful known subscriptions users)
    (hneeded : ∀ position ∈ needed subscriptions (matched subscriptions listing),
      position ∈ missing ∨ position ∈ users.map (·.1)) :
    Errand.Accounted site known cursor ⟨board, subscriptions,
      lookingOrFetching cursor subscriptions (matched subscriptions listing) missing users⟩ := by
  cases missing with
  | cons position missing =>
    exact ⟨⟨listing, hlisting, rfl⟩, List.cons_ne_nil _ _, hmissing, husers, hneeded⟩
  | nil =>
    -- With nobody left to look up, the jobs are all that was promised.
    rw [lookingOrFetching_nil]
    apply accounted_fetchingOrDone
    · rw [List.append_nil]
      exact nodup_number_jobs _ _ _
    · have hjobs := flatMap_jobs_eq_flatMap_threads site cursor board fun position hposition =>
        husers.lookup_eq ((hneeded position hposition).resolve_left (List.not_mem_nil))
      rw [List.append_nil, allSends, hjobs, promised]
      simp only [hlisting, Tally.blank, List.nil_append, List.Perm.refl]

/-- An errand that has lost nothing is alive. -/
theorem Errand.Accounted.ne_dead {site : Site} {known : Int64 → List User} {cursor : UInt64}
    {errand : Errand} (h : errand.Accounted site known cursor) : errand.stage ≠ .dead := by
  intro hdead
  rw [Errand.Accounted, hdead] at h
  exact h

/-- What a settled errand has sent is all that it had to send. -/
theorem Errand.Accounted.sent_perm {site : Site} {known : Int64 → List User} {cursor : UInt64}
    {errand : Errand} (h : errand.Accounted site known cursor) (hsettled : errand.isSettled) :
    errand.sent.Perm (errand.promised site known cursor) := by
  obtain ⟨board, subscriptions, stage⟩ := errand
  cases stage with
  | reported tally => exact h
  | dead => exact h.elim
  | waiting => cases hsettled
  | listing => cases hsettled
  | looking found missing users => cases hsettled
  | fetching queued running tally => cases hsettled

theorem allSends_cons (site : Site) (cursor : UInt64) (board : String) (job : Job)
    (jobs : List Job) : allSends site cursor board (job :: jobs) =
      jobSends site cursor board job.thread job.interests ++ allSends site cursor board jobs :=
  List.flatMap_cons

/-- In whatever order jobs are kept, they have the same to send. -/
theorem allSends_perm (site : Site) (cursor : UInt64) (board : String) {jobs others : List Job}
    (h : jobs.Perm others) :
    (allSends site cursor board jobs).Perm (allSends site cursor board others) :=
  h.flatMap_right _

/-- What is promised to a board stays, and so does the account. -/
theorem Errand.Moves.accounted {site : Site} {registry : Registry σ} {state : σ} {cursor : UInt64}
    {width : Nat} {errand next : Errand} {step : Step} {trace : Trace}
    (h : errand.Moves site registry state cursor width step next trace) (hsite : site.Lives)
    (haccounted : errand.Accounted site (registry.known state) cursor) :
    next.Accounted site (registry.known state) cursor := by
  cases h with
  | list board subscriptions => trivial
  | listed board subscriptions =>
    cases hlisting : site.listing board with
    | answer listing =>
      refine accounted_lookingOrFetching hlisting ?_ (fun entry hentry => ?_) ?_
      · intro position hposition
        exact List.mem_range.mp (List.mem_of_mem_filter hposition)
      · cases hentry
      · exact fun position hposition => .inl hposition
    -- a board that cannot be listed is promised nothing
    | failure =>
      show List.Perm [] (promised site _ cursor _)
      rw [promised]
      simp only [hlisting, List.Perm.refl]
    | collapse => exact absurd hlisting (hsite.listing board)
  | @lookup board subscriptions found missing users position s hs hmissing =>
    obtain ⟨⟨listing, hlisting, hfound⟩, -, hbound, husers, hneeded⟩ := haccounted
    dsimp only at hlisting hfound hneeded
    subst hfound
    exact accounted_lookingOrFetching hlisting
      (fun other hother => hbound other (List.mem_of_mem_erase hother)) (husers.looked hs)
      fun other hother => missing_or_looked (hneeded other hother) _ _
  | @fetch board subscriptions job queued running tally hwidth =>
    obtain ⟨-, hnodup, hsends⟩ := haccounted
    -- A job that leaves the queue for the air is only counted elsewhere.
    have hmoved : (queued ++ (running ++ [job])).Perm (job :: queued ++ running) := by
      rw [← List.append_assoc]
      exact List.perm_append_singleton job (queued ++ running)
    refine ⟨by simp, ?_, ?_⟩
    · exact (hmoved.map _).nodup_iff.mpr hnodup
    · exact ((allSends_perm site cursor board hmoved).append_left _).trans hsends
  | @fetched board subscriptions queued running tally number job hjob =>
    obtain ⟨-, hnodup, hsends⟩ := haccounted
    have hrunning := perm_running hjob (nodup_running hnodup)
    -- Its sends change sides: from what is promised to what is sent.
    have hback : (queued ++ running).Perm
        (job :: (queued ++ running.filter fun other => other.number != number)) :=
      (hrunning.append_left queued).trans List.perm_middle
    have hothers := (List.nodup_cons.mp ((hback.map _).nodup_iff.mp hnodup)).2
    have hsplit : (tally.sends ++ jobSends site cursor board job.thread job.interests ++
        allSends site cursor board
          (queued ++ running.filter fun other => other.number != number)).Perm
        (promised site (registry.known state) cursor ⟨board, subscriptions, .waiting⟩) := by
      rw [List.append_assoc, ← allSends_cons]
      exact ((allSends_perm site cursor board hback.symm).append_left _).trans hsends
    cases hposts : site.posts board job.thread with
    | answer posts =>
      refine accounted_fetchingOrDone hothers ?_
      rw [jobSends, hposts] at hsplit
      exact hsplit
    | failure =>
      refine accounted_fetchingOrDone hothers ?_
      -- a thread that cannot be fetched has nothing to send
      rw [jobSends, hposts, List.append_nil] at hsplit
      exact hsplit
    | collapse => exact absurd hposts (hsite.posts board job.thread)

/-- The trace of a step tells what the step adds to what was sent, unless
the errand dies. -/
theorem Errand.Moves.sent_eq {site : Site} {registry : Registry σ} {state : σ} {cursor : UInt64}
    {width : Nat} {errand next : Errand} {step : Step} {trace : Trace}
    (h : errand.Moves site registry state cursor width step next trace)
    (hlives : next.stage ≠ .dead) : next.sent = errand.sent ++ trace.sends := by
  have hdone : ∀ (board : String) subscriptions queued running tally,
      sent ⟨board, subscriptions, fetchingOrDone queued running tally⟩ = tally.sends := by
    intro board subscriptions queued running tally
    rw [fetchingOrDone]
    split <;> rfl
  have hlooking : ∀ (board : String) subscriptions found missing users, sent ⟨board, subscriptions,
      lookingOrFetching cursor subscriptions found missing users⟩ = [] := by
    intro board subscriptions found missing users
    cases missing with
    | nil => rw [lookingOrFetching_nil, hdone]; rfl
    | cons position missing => rfl
  -- only posts that come back are sent anything of; the other steps trace calls
  cases h with
  | list => rfl
  | listed board subscriptions =>
    cases hlisting : site.listing board with
    | answer listing => exact hlooking _ _ _ _ _
    | failure => rfl
    | collapse => rfl
  | lookup => exact hlooking _ _ _ _ _
  | fetch board subscriptions job queued tally hwidth => exact (List.append_nil _).symm
  | @fetched board subscriptions queued running tally number job hjob =>
    cases hposts : site.posts board job.thread with
    | answer posts => exact hdone _ _ _ _ _
    | failure => exact (hdone _ _ _ _ _).trans (List.append_nil _).symm
    | collapse =>
      rw [hposts] at hlives
      exact absurd rfl hlives

/-! ## §4. An errand never gets stuck. -/

/-- Whether an errand has something to wait for or to do unless it is settled,
and the jobs that it waits for have numbers of their own. -/
def Errand.Sane (errand : Errand) : Prop :=
  match errand.stage with
  | .looking _ missing _ =>
    missing ≠ [] ∧ ∀ position ∈ missing, position < errand.subscriptions.length
  | .fetching queued running _ =>
    queued ++ running ≠ [] ∧ ((queued ++ running).map (·.number)).Nodup
  | _ => True

/-- An errand that is accounted for never gets stuck. -/
theorem Errand.Accounted.sane {site : Site} {known : Int64 → List User} {cursor : UInt64}
    {errand : Errand} (h : errand.Accounted site known cursor) : errand.Sane := by
  obtain ⟨board, subscriptions, stage⟩ := errand
  cases stage with
  | looking found missing users => exact ⟨h.2.1, h.2.2.1⟩
  | fetching queued running tally => exact ⟨h.1, h.2.1⟩
  | _ => trivial

/-- An errand has jobs left, or is done. -/
theorem Errand.sane_fetchingOrDone {board : String} {subscriptions : List Subscription}
    {queued running : List Job} (tally : Tally)
    (hnodup : ((queued ++ running).map (·.number)).Nodup) :
    Errand.Sane ⟨board, subscriptions, fetchingOrDone queued running tally⟩ := by
  rw [fetchingOrDone]
  split
  · trivial
  · next hsome =>
    refine ⟨fun hnil => hsome ?_, hnodup⟩
    obtain ⟨hqueued, hrunning⟩ := List.append_eq_nil_iff.mp hnil
    rw [hqueued, hrunning]
    rfl

/-- An errand has users to look up, or goes on to its jobs. -/
theorem Errand.sane_lookingOrFetching {board : String} (cursor : UInt64)
    {subscriptions : List Subscription} (found : List Match) {missing : List Nat}
    (users : Subscribers) (hmissing : ∀ position ∈ missing, position < subscriptions.length) :
    Errand.Sane
      ⟨board, subscriptions, lookingOrFetching cursor subscriptions found missing users⟩ := by
  cases missing with
  | cons position missing => exact ⟨List.cons_ne_nil _ _, hmissing⟩
  | nil =>
    rw [lookingOrFetching_nil]
    refine sane_fetchingOrDone _ ?_
    rw [List.append_nil]
    exact nodup_number_jobs _ _ _

/-- Every step keeps an errand sane, also one that it dies of. -/
theorem Errand.Moves.sane {site : Site} {registry : Registry σ} {state : σ} {cursor : UInt64}
    {width : Nat} {errand next : Errand} {step : Step} {trace : Trace}
    (h : errand.Moves site registry state cursor width step next trace) (hsane : errand.Sane) :
    next.Sane := by
  cases h with
  | list => trivial
  | listed board subscriptions =>
    cases hlisting : site.listing board with
    | answer listing =>
      exact sane_lookingOrFetching _ _ _ fun position hposition =>
        List.mem_range.mp (List.mem_of_mem_filter hposition)
    | failure => trivial
    | collapse => trivial
  | lookup board hs hmissing =>
    obtain ⟨-, hbound⟩ := hsane
    exact sane_lookingOrFetching _ _ _ fun other hother =>
      hbound other (List.mem_of_mem_erase hother)
  | @fetch board subscriptions job queued running tally hwidth =>
    obtain ⟨-, hnodup⟩ := hsane
    have hmoved : (queued ++ (running ++ [job])).Perm (job :: queued ++ running) := by
      rw [← List.append_assoc]
      exact List.perm_append_singleton job (queued ++ running)
    exact ⟨by simp, (hmoved.map _).nodup_iff.mpr hnodup⟩
  | @fetched board subscriptions queued running tally number job hjob =>
    obtain ⟨-, hnodup⟩ := hsane
    -- what is still in the air after a job came back was there before
    have hothers : ((queued ++ running.filter fun other => other.number != number).map
        (·.number)).Nodup :=
      hnodup.sublist ((List.filter_sublist.append_left queued).map _)
    cases hposts : site.posts board job.thread with
    | answer posts => exact sane_fetchingOrDone _ hothers
    | failure => exact sane_fetchingOrDone _ hothers
    | collapse => trivial

/-- Until an errand is settled, one of its steps can be made. -/
theorem Errand.Sane.exists_moves {errand : Errand} (h : errand.Sane) (site : Site)
    (registry : Registry σ) (state : σ) (cursor : UInt64) {width : Nat} (hwidth : 0 < width)
    (hopen : ¬ errand.isSettled) :
    ∃ step next trace, errand.Moves site registry state cursor width step next trace := by
  obtain ⟨board, subscriptions, stage⟩ := errand
  cases stage with
  | waiting => exact ⟨_, _, _, .list board subscriptions⟩
  | listing => exact ⟨_, _, _, .listed board subscriptions⟩
  | looking found missing users =>
    obtain ⟨hsome, hbound⟩ := h
    obtain ⟨position, hposition⟩ := List.exists_mem_of_ne_nil missing hsome
    obtain ⟨s, hs⟩ : ∃ s, subscriptions[position]? = some s :=
      ⟨_, List.getElem?_eq_getElem (hbound position hposition)⟩
    exact ⟨_, _, _, .lookup board hs hposition⟩
  | fetching queued running tally =>
    obtain ⟨hsome, -⟩ := h
    cases running with
    | cons job running =>
      exact ⟨_, _, _, .fetched board subscriptions queued tally
        (List.find?_cons_of_pos (decide_eq_true rfl))⟩
    | nil =>
      -- With nothing in the air there is room for the first of the queue.
      cases queued with
      | nil => exact absurd rfl hsome
      | cons job queued => exact ⟨_, _, _, .fetch board subscriptions job queued tally hwidth⟩
  | reported tally => exact absurd rfl hopen
  | dead => exact absurd rfl hopen

end BoardRelay.Crawl
