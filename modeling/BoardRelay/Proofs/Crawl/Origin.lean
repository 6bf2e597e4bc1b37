/-
  BoardRelay.Proofs.Crawl.Origin
  ────────────────────────────────
  Where what an errand sends comes from.  Every user that a job knows of was
  found when a subscription was looked up that its thread is for, whatever
  the registry did in between (`Errand.Sourced`, `Errand.Moves.sourced`); if
  it told the same all along, a job has the interests of one listed thread
  (`Errand.exists_thread`).
-/
import BoardRelay.Proofs.Crawl.Errand

namespace BoardRelay.Crawl

variable {σ : Type}

/-! ## §1. Jobs and their threads. -/

/-- A job is for one listed thread that a subscription is for. -/
theorem mem_jobs {subscriptions : List Subscription} {users : Subscribers} {listing : Listing}
    {job : Job} (h : job ∈ jobs subscriptions users (matched subscriptions listing)) :
    ∃ thread ∈ listing.threads, job.thread = thread.number ∧
      Match.mk thread.number (hits subscriptions thread.comment) ∈
        matched subscriptions listing ∧
      job.interests = interests subscriptions users
        ⟨thread.number, hits subscriptions thread.comment⟩ := by
  rw [jobs, number, List.mem_map] at h
  obtain ⟨⟨⟨number, interests⟩, index⟩, hmem, rfl⟩ := h
  -- a job is numbered after the entry it is made for, and that after a listed thread
  obtain ⟨entry, hentry, heq⟩ :=
    List.mem_map.mp (List.mem_of_mem_filter (List.fst_mem_of_mem_zipIdx hmem))
  cases heq
  obtain ⟨thread, hthread, rfl⟩ := List.mem_map.mp (List.mem_of_mem_filter hentry)
  exact ⟨thread, hthread, rfl, hentry, rfl⟩

theorem mem_of_lookup_eq {users : Subscribers} {position : Nat} {found : List User}
    (h : users.lookup position = some found) : (position, found) ∈ users := by
  obtain ⟨before, after, rfl, -⟩ := List.lookup_eq_some_iff.mp h
  exact List.mem_append_right _ List.mem_cons_self

/-- Whoever is interested in a thread was found for a subscription that the
thread is for. -/
theorem mem_interests {subscriptions : List Subscription} {users : Subscribers}
    {number comment : String} {interest : Interest}
    (h : interest ∈ interests subscriptions users ⟨number, hits subscriptions comment⟩) :
    ∃ position s found, subscriptions[position]? = some s ∧
      s.filter.query.matches comment = true ∧ (position, found) ∈ users ∧
      interest.user ∈ found ∧ interest.kinds = s.filter.kinds := by
  rw [interests, List.mem_flatMap] at h
  obtain ⟨position, hposition, h⟩ := h
  obtain ⟨s, hs, hmatch⟩ := mem_hits_iff.mp hposition
  rw [hs] at h
  obtain ⟨user, huser, rfl⟩ := List.mem_map.mp h
  -- only positions that were looked up bring users
  cases hfound : users.lookup position with
  | none => rw [hfound] at huser; cases huser
  | some found =>
    rw [hfound] at huser
    exact ⟨position, s, found, hs, hmatch, mem_of_lookup_eq hfound, huser, rfl⟩

/-- Leaving repetitions out brings in no user. -/
theorem mem_of_mem_firstOfEach {seen : List Int64} {users : List User} {user : User}
    (h : user ∈ firstOfEach seen users) : user ∈ users := by
  induction users generalizing seen with
  | nil => cases h
  | cons first others ih =>
    rw [firstOfEach] at h
    -- a user who was seen is skipped, any other one is kept in place
    split at h
    · exact List.mem_cons_of_mem _ (ih h)
    · rcases List.mem_cons.mp h with rfl | hrest
      · exact List.mem_cons_self
      · exact List.mem_cons_of_mem _ (ih hrest)

/-- Whoever receives a file is interested in files of that name. -/
theorem mem_receivers {interests : List Interest} {name : String} {user : User}
    (h : user ∈ receivers interests name) :
    ∃ interest ∈ interests, interest.user = user ∧ interest.kinds.accepts name = true := by
  obtain ⟨interest, hmem, rfl⟩ := List.mem_map.mp (mem_of_mem_firstOfEach h)
  obtain ⟨hinterest, haccepts⟩ := List.mem_filter.mp hmem
  exact ⟨interest, hinterest, rfl, haccepts⟩

/-- A send of a thread is for the receivers of one of its files. -/
theorem mem_sends {resource : String → String} {cursor : UInt64} {job : Job} {posts : Posts}
    {send : Send} (h : send ∈ sends resource cursor job posts) :
    ∃ post ∈ posts.posts, cursor < post.timestamp ∧ ∃ file ∈ post.files,
      send = ⟨receivers job.interests file.name, resource file.path, job.thread⟩ := by
  rw [sends, List.mem_flatMap] at h
  obtain ⟨post, hpost, hfile⟩ := h
  obtain ⟨hmem, hnewer⟩ := List.mem_filter.mp hpost
  obtain ⟨file, hfile, hsend⟩ := List.mem_filterMap.mp hfile
  refine ⟨post, hmem, of_decide_eq_true hnewer, file, hfile, ?_⟩
  rw [sendOf?] at hsend
  split at hsend
  · cases hsend
  · exact (Option.some.inj hsend).symm

/-! ## §2. Users that were found. -/

/-- What was found for positions was found for the subscriptions there. -/
def Found (Looked : Subscription → List User → Prop) (subscriptions : List Subscription)
    (users : Subscribers) : Prop :=
  ∀ entry ∈ users, ∃ s, subscriptions[entry.1]? = some s ∧ Looked s entry.2

/-- An errand all of whose users were found by lookups of the kind given, one
for each position that is needed. -/
def Errand.Sourced (site : Site) (Looked : Subscription → List User → Prop) (errand : Errand) :
    Prop :=
  match errand.stage with
  | .looking found missing users =>
    Found Looked errand.subscriptions users ∧ ∃ listing,
      site.listing errand.board = .answer listing ∧
      found = matched errand.subscriptions listing ∧
      ∀ position ∈ needed errand.subscriptions found,
        position ∈ missing ∨ position ∈ users.map (·.1)
  | .fetching queued running _ =>
    ∃ users, Found Looked errand.subscriptions users ∧ ∃ listing,
      site.listing errand.board = .answer listing ∧
      (∀ position ∈ needed errand.subscriptions (matched errand.subscriptions listing),
        position ∈ users.map (·.1)) ∧
      ∀ job ∈ queued ++ running,
        job ∈ jobs errand.subscriptions users (matched errand.subscriptions listing)
  | _ => True

/-- What was found by one kind of lookup was found by any wider kind. -/
theorem Found.mono {Looked Later : Subscription → List User → Prop}
    {subscriptions : List Subscription} {users : Subscribers}
    (h : Found Looked subscriptions users)
    (hlater : ∀ s found, Looked s found → Later s found) : Found Later subscriptions users := by
  intro entry hentry
  obtain ⟨s, hs, hlooked⟩ := h entry hentry
  exact ⟨s, hs, hlater s _ hlooked⟩

theorem Errand.Sourced.mono {site : Site} {Looked Later : Subscription → List User → Prop}
    {errand : Errand} (h : errand.Sourced site Looked)
    (hlater : ∀ s found, Looked s found → Later s found) : errand.Sourced site Later := by
  obtain ⟨board, subscriptions, stage⟩ := errand
  cases stage with
  | looking found missing users => exact ⟨h.1.mono hlater, h.2⟩
  | fetching queued running tally =>
    obtain ⟨users, hfound, hrest⟩ := h
    exact ⟨users, hfound.mono hlater, hrest⟩
  | _ => trivial

section Moves

variable {site : Site} {Looked : Subscription → List User → Prop} {registry : Registry σ}
  {state : σ} {cursor : UInt64} {width : Nat} {errand next : Errand} {step : Step} {trace : Trace}

/-- Once the lookups are made, each job is one of those that they gave. -/
theorem Errand.sourced_fetchingOrDone {board : String} {subscriptions : List Subscription}
    {queued running : List Job} (tally : Tally) {users : Subscribers} {listing : Listing}
    (hfound : Found Looked subscriptions users) (hlisting : site.listing board = .answer listing)
    (hneeded : ∀ position ∈ needed subscriptions (matched subscriptions listing),
      position ∈ users.map (·.1))
    (hjobs : ∀ job ∈ queued ++ running,
      job ∈ jobs subscriptions users (matched subscriptions listing)) :
    Errand.Sourced site Looked
      ⟨board, subscriptions, fetchingOrDone queued running tally⟩ := by
  rw [fetchingOrDone]
  split
  · trivial
  · exact ⟨users, hfound, listing, hlisting, hneeded, hjobs⟩

/-- With nobody left to look up, the jobs are made of what was found. -/
theorem Errand.sourced_lookingOrFetching {board : String} (cursor : UInt64)
    {subscriptions : List Subscription} {missing : List Nat} {users : Subscribers}
    {listing : Listing} (hfound : Found Looked subscriptions users)
    (hlisting : site.listing board = .answer listing)
    (hneeded : ∀ position ∈ needed subscriptions (matched subscriptions listing),
      position ∈ missing ∨ position ∈ users.map (·.1)) :
    Errand.Sourced site Looked ⟨board, subscriptions,
      lookingOrFetching cursor subscriptions (matched subscriptions listing) missing users⟩ := by
  cases missing with
  | cons position missing => exact ⟨hfound, listing, hlisting, rfl, hneeded⟩
  -- nothing is missing, so every position that is needed was looked up
  | nil =>
    rw [lookingOrFetching_nil]
    refine sourced_fetchingOrDone _ hfound hlisting
      (fun position hposition => (hneeded position hposition).resolve_left List.not_mem_nil) ?_
    rw [List.append_nil]
    exact fun job hjob => hjob

/-- Each step keeps what the users come from, if its own lookup is of that
kind. -/
theorem Errand.Moves.sourced (h : errand.Moves site registry state cursor width step next trace)
    (hsourced : errand.Sourced site Looked)
    (hlooked : ∀ position s, step = .lookup position → trace = .call (.lookup s.id) →
      Looked s (registry.known state s.id)) :
    next.Sourced site Looked := by
  cases h with
  | list => trivial
  | listed board subscriptions =>
    cases hlisting : site.listing board with
    | answer listing =>
      exact sourced_lookingOrFetching cursor (fun _ hentry => (List.not_mem_nil hentry).elim)
        hlisting fun position => .inl
    | failure => trivial
    | collapse => trivial
  | @lookup board subscriptions found missing users position s hs hmissing =>
    obtain ⟨hfound, listing, hlisting, hmatched, hneeded⟩ := hsourced
    dsimp only at hfound hlisting hmatched hneeded
    subst hmatched
    -- one entry more, which is what this lookup has found
    refine sourced_lookingOrFetching cursor (fun entry hentry => ?_) hlisting
      fun other hother => missing_or_looked (hneeded other hother) _ _
    rcases List.mem_append.mp hentry with hold | hnew
    · exact hfound entry hold
    · rw [List.mem_singleton.mp hnew]
      exact ⟨s, hs, hlooked position s rfl rfl⟩
  | @fetch board subscriptions job queued running tally hwidth =>
    obtain ⟨users, hfound, listing, hlisting, hneeded, hjobs⟩ := hsourced
    refine ⟨users, hfound, listing, hlisting, hneeded, fun other hother => hjobs other ?_⟩
    -- the job goes from the queue into the air, and no other is new
    have hmoved : (queued ++ (running ++ [job])).Perm (job :: queued ++ running) := by
      rw [← List.append_assoc]
      exact List.perm_append_singleton job (queued ++ running)
    exact hmoved.mem_iff.mp hother
  | @fetched board subscriptions queued running tally number job hjob =>
    obtain ⟨users, hfound, listing, hlisting, hneeded, hjobs⟩ := hsourced
    have hothers : ∀ other ∈ queued ++ running.filter fun other => other.number != number,
        other ∈ jobs subscriptions users (matched subscriptions listing) :=
      fun other hother => hjobs other ((List.filter_sublist.append_left queued).mem hother)
    cases site.posts board job.thread with
    | answer posts => exact sourced_fetchingOrDone _ hfound hlisting hneeded hothers
    | failure => exact sourced_fetchingOrDone _ hfound hlisting hneeded hothers
    | collapse => trivial

/-! ## §3. What a thread that came back is for. -/

/-- A file of a post of a listed thread, as it is sent for a subscription. -/
structure Sends (site : Site) (board : String) (s : Subscription) (send : Send)
    (listing : Listing) (thread : Thread) (posts : Posts) (post : Post) (file : Attachment) :
    Prop where
  lists : site.listing board = .answer listing
  listed : thread ∈ listing.threads
  isFor : s.filter.query.matches thread.comment = true
  fetched : site.posts board thread.number = .answer posts
  posted : post ∈ posts.posts
  attached : file ∈ post.files
  takes : s.filter.kinds.accepts file.name = true
  locator : send.locator = site.resource file.path
  caption : send.caption = thread.number

/-- Whether the filter of a subscription selects a send on a board. -/
def Selects (site : Site) (board : String) (s : Subscription) (send : Send) : Prop :=
  ∃ listing thread posts post file, Sends site board s send listing thread posts post file

/-- Every receiver of what a step sends was found by the lookup of a
subscription that selects it. -/
theorem Errand.Moves.exists_looked
    (h : errand.Moves site registry state cursor width step next trace)
    (hsourced : errand.Sourced site Looked) {send : Send} (hsend : send ∈ trace.sends) {user : User}
    (huser : user ∈ send.receivers) :
    ∃ s ∈ errand.subscriptions, Selects site errand.board s send ∧
      ∃ found, Looked s found ∧ user ∈ found := by
  -- only a thread that comes back has anything sent
  cases h with
  | list => cases hsend
  | listed => cases hsend
  | lookup => cases hsend
  | fetch => cases hsend
  | @fetched board subscriptions queued running tally number job hjob =>
    obtain ⟨users, hfound, listing, hlisting, -, hjobs⟩ := hsourced
    dsimp only at hfound hlisting hjobs ⊢
    have hmem := hjobs job (List.mem_append_right _ (List.mem_of_find?_eq_some hjob))
    obtain ⟨thread, hthread, hnumber, -, hinterests⟩ := mem_jobs hmem
    cases hposts : site.posts board job.thread with
    | failure => rw [hposts] at hsend; cases hsend
    | collapse => rw [hposts] at hsend; cases hsend
    | answer posts =>
      rw [hposts] at hsend
      obtain ⟨post, hpost, -, file, hfile, rfl⟩ := mem_sends hsend
      -- from the receiver to the interest, the position it comes from, and the lookup there
      obtain ⟨interest, hinterest, rfl, haccepts⟩ := mem_receivers huser
      rw [hinterests] at hinterest
      obtain ⟨position, s, known, hs, hmatch, hlooked, hknown, hkinds⟩ := mem_interests hinterest
      obtain ⟨other, hother, hall⟩ := hfound _ hlooked
      cases hs.symm.trans hother
      rw [hkinds] at haccepts
      rw [hnumber] at hposts
      exact ⟨s, List.mem_of_getElem? hs, ⟨listing, thread, posts, post, file, hlisting, hthread,
        hmatch, hposts, hpost, hfile, haccepts, rfl, hnumber⟩, known, hall, hknown⟩

/-- If lookups are true to what is known, a job in the air is for one listed
thread, with all who want files of it. -/
theorem Errand.exists_thread {known : Int64 → List User} {queued running : List Job}
    {tally : Tally} (hstage : errand.stage = .fetching queued running tally)
    (hsourced : errand.Sourced site fun s found => found = known s.id) {job : Job}
    (hjob : job ∈ running) :
    ∃ listing, site.listing errand.board = .answer listing ∧ ∃ thread ∈ listing.threads,
      job.thread = thread.number ∧
      job.interests = wants known errand.subscriptions thread.comment := by
  rw [Sourced, hstage] at hsourced
  obtain ⟨users, hfound, listing, hlisting, hneeded, hjobs⟩ := hsourced
  -- lookups that are true to what is known leave users that are
  have htruthful : Truthful known errand.subscriptions users := by
    intro entry hentry
    obtain ⟨s, hs, hlooked⟩ := hfound entry hentry
    rw [hlooked, knownAt, hs]
  obtain ⟨thread, hthread, hnumber, hentry, hinterests⟩ :=
    mem_jobs (hjobs job (List.mem_append_right _ hjob))
  refine ⟨listing, hlisting, thread, hthread, hnumber, hinterests.trans ?_⟩
  exact interests_eq_wants fun position hposition =>
    htruthful.lookup_eq (hneeded position (mem_needed hentry rfl hposition))

end Moves

end BoardRelay.Crawl
