/-
  BoardRelay.Board
  ────────────────────────────────
  What an imageboard answers: the threads listed on a board, and the posts
  of one thread with the files attached to them.  Times are seconds since
  1970 as unsigned 64-bit words, unchecked.
-/

namespace BoardRelay

/-- An entry of a board's listing. -/
structure Thread where
  number : String
  comment : String
  subject : String
  timestamp : UInt64
  postsCount : UInt64
  deriving Repr, DecidableEq

/-- The threads now on a board. -/
structure Listing where
  board : String
  threads : List Thread
  deriving Repr, DecidableEq

/-- A file attached to a post. -/
structure Attachment where
  name : String
  path : String
  size : UInt64
  deriving Repr, DecidableEq

/-- A post of a thread. -/
structure Post where
  comment : String
  timestamp : UInt64
  files : List Attachment
  deriving Repr, DecidableEq

/-- A run of posts. -/
structure Posts where
  posts : List Post
  deriving Repr, DecidableEq

/-- A thread's payload, which may come in several runs of posts. -/
structure ThreadPayload where
  threads : List Posts
  deriving Repr, DecidableEq

/-- All posts of a payload in order. -/
def ThreadPayload.flatten (payload : ThreadPayload) : Posts :=
  ⟨payload.threads.flatMap Posts.posts⟩

end BoardRelay
