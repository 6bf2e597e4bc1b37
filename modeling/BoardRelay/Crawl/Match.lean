/-
  BoardRelay.Crawl.Match
  ────────────────────────────────
  Who gets which file of a board.  Threads are matched by their listed text
  against the tags of each subscription; a matched thread is worth fetching
  if one of its subscriptions has users; and a file of a new post goes to
  every user, once, whose kinds accept its name.
-/
import BoardRelay.Board
import BoardRelay.Delivery.Send
import BoardRelay.Subscription.Filter

namespace BoardRelay.Crawl

/-! ## §1. Threads -/

/-- A listed thread and the positions of the subscriptions that it is for. -/
structure Match where
  thread : String
  hits : List Nat
  deriving Repr, DecidableEq

/-- The positions of the subscriptions whose tags a text satisfies. -/
def hits (subscriptions : List Subscription) (text : String) : List Nat :=
  (subscriptions.zipIdx.filter fun (s, _) => s.filter.query.matches text).map (·.2)

/-- The threads of a listing that any of the subscriptions is for. -/
def matched (subscriptions : List Subscription) (listing : Listing) : List Match :=
  (listing.threads.map fun thread => ⟨thread.number, hits subscriptions thread.comment⟩).filter
    fun found => !found.hits.isEmpty

/-- The positions of the subscriptions that some thread matched, in order. -/
def needed (subscriptions : List Subscription) (found : List Match) : List Nat :=
  (List.range subscriptions.length).filter fun position =>
    found.any fun entry => entry.hits.contains position

/-! ## §2. Interests -/

/-- A user and the kinds of files that the user takes. -/
structure Interest where
  user : User
  kinds : FileKinds
  deriving Repr, DecidableEq

/-- A thread to fetch, and for whom.  Its number tells it from others. -/
structure Job where
  number : Nat
  thread : String
  interests : List Interest
  deriving Repr, DecidableEq

/-- The users found for subscriptions, by position. -/
abbrev Subscribers := List (Nat × List User)

/-- Who wants files of a matched thread, in the order of the subscriptions
and then of their users. -/
def interests (subscriptions : List Subscription) (users : Subscribers) (found : Match) :
    List Interest :=
  found.hits.flatMap fun position =>
    match subscriptions[position]? with
    | none => []
    | some s => ((users.lookup position).getD []).map fun user => ⟨user, s.filter.kinds⟩

/-- Numbers jobs in order. -/
def number (wanted : List (String × List Interest)) : List Job :=
  wanted.zipIdx.map fun ((thread, interests), number) => ⟨number, thread, interests⟩

/-- The matched threads that someone wants files of. -/
def jobs (subscriptions : List Subscription) (users : Subscribers) (found : List Match) :
    List Job :=
  number ((found.map fun entry => (entry.thread, interests subscriptions users entry)).filter
    fun wanted => !wanted.2.isEmpty)

/-! ## §3. Files -/

/-- The users of a list whose identifier has not been seen, each once. -/
def firstOfEach (seen : List Int64) : List User → List User
  | [] => []
  | user :: others =>
    if seen.contains user.id then firstOfEach seen others
    else user :: firstOfEach (user.id :: seen) others

/-- The users who take a file of this name. -/
def receivers (interests : List Interest) (name : String) : List User :=
  firstOfEach [] ((interests.filter fun i => i.kinds.accepts name).map (·.user))

/-- The posts newer than the cursor. -/
def newPosts (cursor : UInt64) (posts : Posts) : List Post :=
  posts.posts.filter fun post => cursor < post.timestamp

/-- A file on its way, if anyone takes it. -/
def sendOf? (resource : String → String) (job : Job) (file : Attachment) : Option Send :=
  match receivers job.interests file.name with
  | [] => none
  | users => some ⟨users, resource file.path, job.thread⟩

/-- What a fetched thread has to be sent. -/
def sends (resource : String → String) (cursor : UInt64) (job : Job) (posts : Posts) :
    List Send :=
  (newPosts cursor posts).flatMap fun post => post.files.filterMap (sendOf? resource job)

/-- The time of the newest post of a thread, or the cursor if none is newer. -/
def newest (cursor : UInt64) (posts : Posts) : UInt64 :=
  (newPosts cursor posts).foldl (fun latest post => max latest post.timestamp) cursor

end BoardRelay.Crawl
