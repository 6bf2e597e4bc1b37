/-
  BoardRelay.Proofs.Crawl.Owed
  ────────────────────────────────
  What a cycle owes, said without errands, jobs and positions: for each
  subscribed board that can be listed, each thread on it that can be
  fetched, each post newer than the cursor and each file of it that anyone
  takes, one send to all who take it.

  The jobs of an errand add up to what its board is owed
  (`flatMap_jobs_eq_flatMap_threads`), whatever the order in which the
  subscribers were looked up.
-/
import BoardRelay.Crawl.Cycle
import Mathlib.Data.List.Dedup

namespace BoardRelay.Crawl

/-! ## §1. The sends that a store's subscriptions call for. -/

/-- The users whom a link of the store leads to a subscription. -/
def linkedUsers (store : Store) (id : Int64) : List User :=
  store.users.filter fun user => Link.mk user.id id ∈ store.links

/-- A subscription's users are those that the links lead to it. -/
theorem subscribersOf_eq_linkedUsers (store : Store) (id : Int64) :
    store.subscribersOf id = linkedUsers store id := by
  -- user by user: a link with both ends is that very link
  refine List.filter_congr fun user _ => ?_
  rw [Store.linked, Bool.eq_iff_iff, List.any_eq_true, decide_eq_true_eq]
  constructor
  · rintro ⟨link, hlink, hends⟩
    rw [Bool.and_eq_true, decide_eq_true_eq, decide_eq_true_eq] at hends
    rwa [← hends.1, ← hends.2]
  · exact fun hlink => ⟨_, hlink, by simp⟩

/-- Who takes a file of a thread, with repetitions: subscription by
subscription in the order of the store, of those whose subscribers can be
looked up. -/
def takers (store : Store) (answered : Int64 → Bool) (board comment name : String) : List User :=
  (store.subscriptions.filter fun s => s.board = board && s.filter.query.matches comment &&
    answered s.id && s.filter.kinds.accepts name).flatMap fun s => linkedUsers store s.id

/-- Who takes a file of a thread, each where first named. -/
def owedTo (store : Store) (answered : Int64 → Bool) (board comment name : String) : List User :=
  (takers store answered board comment name).eraseDupsBy fun user other => user.id == other.id

/-- The send of a file, unless nobody takes it. -/
def owedFile (site : Site) (store : Store) (answered : Int64 → Bool) (board : String)
    (thread : Thread) (file : Attachment) : List Send :=
  match owedTo store answered board thread.comment file.name with
  | [] => []
  | users => [⟨users, site.resource file.path, thread.number⟩]

/-- The sends of a thread, unless it cannot be fetched. -/
def owedThread (site : Site) (store : Store) (answered : Int64 → Bool) (board : String)
    (thread : Thread) : List Send :=
  match site.posts board thread.number with
  | .answer posts =>
    (posts.posts.filter fun post => store.cursor < post.timestamp).flatMap fun post =>
      post.files.flatMap (owedFile site store answered board thread)
  | _ => []

/-- The sends of a board, unless it cannot be listed. -/
def owedBoard (site : Site) (store : Store) (answered : Int64 → Bool) (board : String) :
    List Send :=
  match site.listing board with
  | .answer listing => listing.threads.flatMap (owedThread site store answered board)
  | _ => []

/-- The sends of all boards that anyone subscribes to. -/
def owed (site : Site) (store : Store) (answered : Int64 → Bool) : List Send :=
  (store.subscriptions.map (·.board)).dedup.flatMap (owedBoard site store answered)

/-! ## §2. Receivers. -/

/-- Going through users and skipping whom one has seen leaves each where first
named. -/
theorem firstOfEach_eq_eraseDupsBy (seen : List Int64) (users : List User) :
    firstOfEach seen users = (users.filter fun user => !seen.contains user.id).eraseDupsBy
      fun user other => user.id == other.id := by
  induction users generalizing seen with
  | nil => rfl
  | cons user others ih =>
    -- a user seen before is left out, a new one is seen from then on
    by_cases hseen : seen.contains user.id
    · rw [firstOfEach, if_pos hseen, ih, List.filter_cons_of_neg (by rw [hseen]; decide)]
    · rw [firstOfEach, if_neg hseen, ih, List.filter_cons_of_pos (by simpa using hseen),
        List.eraseDupsBy_cons, List.filter_filter]
      congr 3
      funext other
      rw [List.contains_cons, Bool.not_or]
      cases h : other.id == user.id <;> simp

/-- Who wants files of a thread with this text, if `known` tells the users
of a subscription. -/
def wants (known : Int64 → List User) (subscriptions : List Subscription) (comment : String) :
    List Interest :=
  (subscriptions.filter fun s => s.filter.query.matches comment).flatMap fun s =>
    (known s.id).map fun user => ⟨user, s.filter.kinds⟩

/-- Who receives a file is each user of a subscription that wants it, once. -/
theorem receivers_wants (known : Int64 → List User) (subscriptions : List Subscription)
    (comment name : String) :
    receivers (wants known subscriptions comment) name =
      ((subscriptions.filter fun s => s.filter.query.matches comment &&
        s.filter.kinds.accepts name).flatMap fun s => known s.id).eraseDupsBy
          fun user other => user.id == other.id := by
  -- who is interested in a name, before repetitions are left out
  have hwants : ((wants known subscriptions comment).filter fun i => i.kinds.accepts name).map
      (·.user) = (subscriptions.filter fun s => s.filter.query.matches comment &&
        s.filter.kinds.accepts name).flatMap fun s => known s.id := by
    induction subscriptions with
    | nil => rfl
    | cons s others ih =>
      rw [wants] at ih ⊢
      cases hmatch : s.filter.query.matches comment <;>
        cases haccept : s.filter.kinds.accepts name <;>
        simp [hmatch, haccept, ih, Function.comp_def, List.filter_map]
  rw [receivers, firstOfEach_eq_eraseDupsBy, hwants]
  simp

/-! ## §3. Threads and jobs. -/

/-- What a job has to send, if its thread can be fetched. -/
def jobSends (site : Site) (cursor : UInt64) (board thread : String) (interests : List Interest) :
    List Send :=
  match site.posts board thread with
  | .answer posts => sends site.resource cursor ⟨0, thread, interests⟩ posts
  | _ => []

@[simp]
theorem jobSends_nil (site : Site) (cursor : UInt64) (board thread : String) :
    jobSends site cursor board thread [] = [] := by
  rw [jobSends]
  split
  · simp [sends, sendOf?, receivers, firstOfEach]
  · rfl

/-- Who wants files of a thread is whom they are owed to. -/
theorem receivers_wants_eq_owedTo (store : Store) {answered : Int64 → Bool}
    {known : Int64 → List User}
    (hknown : ∀ id, known id = if answered id then store.subscribersOf id else [])
    (board comment name : String) :
    receivers (wants known (store.subscriptions.filter fun s => s.board = board) comment) name =
      owedTo store answered board comment name := by
  -- Filters may be swapped, but a lookup that failed leaves its subscription in.
  rw [receivers_wants, owedTo, takers, List.filter_filter]
  congr 1
  induction store.subscriptions with
  | nil => rfl
  | cons s others ih =>
    have hone := hknown s.id
    cases hanswer : answered s.id <;>
      cases hmatch : s.filter.query.matches comment <;>
      cases haccept : s.filter.kinds.accepts name <;>
      by_cases hboard : s.board = board <;>
      simp [hboard, hanswer, hmatch, haccept, hone, ih, subscribersOf_eq_linkedUsers]

/-- A thread's job sends what the thread is owed. -/
theorem jobSends_wants (site : Site) (store : Store) (answered : Int64 → Bool) (board : String)
    (thread : Thread) {known : Int64 → List User}
    (hknown : ∀ id, known id = if answered id then store.subscribersOf id else []) :
    jobSends site store.cursor board thread.number
        (wants known (store.subscriptions.filter fun s => s.board = board) thread.comment) =
      owedThread site store answered board thread := by
  -- for one file: the receivers wanted are those that it is owed to
  have hfile : ∀ file : Attachment, (sendOf? site.resource ⟨0, thread.number, wants known
      (store.subscriptions.filter fun s => s.board = board) thread.comment⟩ file).toList =
        owedFile site store answered board thread file := by
    intro file
    rw [sendOf?, owedFile, receivers_wants_eq_owedTo store hknown]
    cases owedTo store answered board thread.comment file.name <;> rfl
  rw [jobSends, owedThread]
  cases site.posts board thread.number with
  | answer posts =>
    simp only [sends, newPosts, List.filterMap_eq_flatMap_toList, hfile]
  | failure => rfl
  | collapse => rfl

/-- What the position of a subscription stands for. -/
def knownAt (known : Int64 → List User) (subscriptions : List Subscription) (position : Nat) :
    List User :=
  match subscriptions[position]? with
  | some s => known s.id
  | none => []

/-- A position is a hit of a text if its subscription matches the text. -/
theorem mem_hits_iff {subscriptions : List Subscription} {comment : String} {position : Nat} :
    position ∈ hits subscriptions comment ↔
      ∃ s, subscriptions[position]? = some s ∧ s.filter.query.matches comment = true := by
  simp [hits, List.mem_zipIdx_iff_getElem?]

/-- Every hit of a matched thread is needed. -/
theorem mem_needed {subscriptions : List Subscription} {found : List Match} {entry : Match}
    (hentry : entry ∈ found) {comment : String} (hhits : entry.hits = hits subscriptions comment)
    {position : Nat} (hposition : position ∈ entry.hits) :
    position ∈ needed subscriptions found := by
  rw [needed, List.mem_filter, List.mem_range, List.any_eq_true]
  refine ⟨?_, entry, hentry, by simpa using hposition⟩
  rw [hhits, mem_hits_iff] at hposition
  obtain ⟨s, hs, -⟩ := hposition
  exact (List.getElem?_eq_some_iff.mp hs).1

/-- What a thread's hits come to, once they are looked up, is what its
subscriptions want. -/
theorem interests_eq_wants {known : Int64 → List User} {subscriptions : List Subscription}
    {users : Subscribers} {thread comment : String}
    (husers : ∀ position ∈ hits subscriptions comment,
      users.lookup position = some (knownAt known subscriptions position)) :
    interests subscriptions users ⟨thread, hits subscriptions comment⟩ =
      wants known subscriptions comment := by
  have hinterests : interests subscriptions users ⟨thread, hits subscriptions comment⟩ =
      (hits subscriptions comment).flatMap fun position =>
        subscriptions[position]?.elim [] fun s =>
          (known s.id).map fun user => Interest.mk user s.filter.kinds := by
    rw [interests]
    refine List.flatMap_congr fun position hmem => ?_
    rw [husers position hmem, knownAt]
    cases subscriptions[position]? <;> rfl
  have hzip : ∀ entry ∈ subscriptions.zipIdx, subscriptions[entry.2]? = some entry.1 :=
    fun entry hentry => List.mem_zipIdx_iff_getElem?.mp hentry
  -- Positions tell of subscriptions what their places in the list tell.
  have hfilter : (subscriptions.filter fun s => s.filter.query.matches comment) =
      (subscriptions.zipIdx.filter fun entry =>
        entry.1.filter.query.matches comment).map (·.1) := by
    conv_lhs => rw [← List.zipIdx_map_fst 0 subscriptions, List.filter_map]
    rfl
  rw [hinterests, hits, List.flatMap_map, wants, hfilter, List.flatMap_map]
  refine List.flatMap_congr fun entry hentry => ?_
  rw [hzip entry (List.mem_of_mem_filter hentry)]
  rfl

/-- Numbering jobs does not change what they send. -/
theorem flatMap_number (wanted : List (String × List Interest))
    (f : String → List Interest → List Send) :
    (number wanted).flatMap (fun job => f job.thread job.interests) =
      wanted.flatMap fun entry => f entry.1 entry.2 := by
  rw [number, List.flatMap_map]
  conv_rhs => rw [← List.zipIdx_map_fst 0 wanted, List.flatMap_map]

/-- Jobs are left out only for threads that nobody wants files of. -/
theorem flatMap_filter_of_nil {α β : Type} {p : α → Bool} {f : α → List β} {l : List α}
    (h : ∀ a ∈ l, p a = false → f a = []) : (l.filter p).flatMap f = l.flatMap f := by
  -- what is left out adds nothing where it stood
  induction l with
  | nil => rfl
  | cons a l ih =>
    have ih := ih fun b hb => h b (List.mem_cons_of_mem a hb)
    cases hp : p a with
    | true => rw [List.filter_cons_of_pos hp, List.flatMap_cons, List.flatMap_cons, ih]
    | false =>
      rw [List.filter_cons_of_neg (by simp [hp]), List.flatMap_cons,
        h a List.mem_cons_self hp, ih, List.nil_append]

/-- The jobs of a listing send what its threads are owed, once all
subscribers that are needed have been looked up. -/
theorem flatMap_jobs_eq_flatMap_threads (site : Site) (cursor : UInt64) (board : String)
    {known : Int64 → List User} {subscriptions : List Subscription} {listing : Listing}
    {users : Subscribers}
    (husers : ∀ position ∈ needed subscriptions (matched subscriptions listing),
      users.lookup position = some (knownAt known subscriptions position)) :
    (jobs subscriptions users (matched subscriptions listing)).flatMap
        (fun job => jobSends site cursor board job.thread job.interests) =
      listing.threads.flatMap fun thread =>
        jobSends site cursor board thread.number (wants known subscriptions thread.comment) := by
  rw [jobs, flatMap_number, flatMap_filter_of_nil, List.flatMap_map]
  · rw [matched, flatMap_filter_of_nil, List.flatMap_map]
    · refine List.flatMap_congr fun thread hthread => ?_
      dsimp only
      -- A thread that is left out sends nothing; of any other, all hits are needed.
      by_cases hnone : hits subscriptions thread.comment = []
      · have hwants : wants known subscriptions thread.comment = [] := by
          have hnobody := @interests_eq_wants known subscriptions [] thread.number thread.comment
            (by simp [hnone])
          rw [← hnobody, hnone]
          rfl
        rw [hnone, hwants]
        rfl
      · have hmem : Match.mk thread.number (hits subscriptions thread.comment) ∈
            matched subscriptions listing := by
          rw [matched, List.mem_filter]
          exact ⟨List.mem_map.mpr ⟨thread, hthread, rfl⟩, by simpa using hnone⟩
        rw [interests_eq_wants fun position hposition =>
          husers position (mem_needed hmem rfl hposition)]
    · intro entry _ hempty
      have : entry.hits = [] := by simpa using hempty
      simp [interests, this]
  · intro entry _ hempty
    have : entry.2 = [] := by simpa using hempty
    rw [this, jobSends_nil]

end BoardRelay.Crawl
