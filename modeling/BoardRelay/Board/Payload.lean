/-
  BoardRelay.Board.Payload
  ────────────────────────────────
  What a board answers, read from JSON.  A thread's number must be there and
  may be written as a text or as a number; a post must have a time, a file
  its name and path; everything else has a default.
-/
import BoardRelay.Board
import BoardRelay.Json.Record

namespace BoardRelay

open BoardRelay.Json

/-- A thread number, written as a text or as an unsigned word. -/
def Thread.decodeNumber : Decoder String := fun value =>
  (asText value).orElse fun _ => (asWord value).map fun word => toString word.toNat

/-- An entry of a listing. -/
def Thread.decode : Decoder Thread := fun value => do
  let given ← fields .refused ["num", "comment", "subject", "timestamp", "posts_count"] value
  let number ← required Thread.decodeNumber given "num"
  let comment ← optional "" asText given "comment"
  let subject ← optional "" asText given "subject"
  let timestamp ← optional 0 asWord given "timestamp"
  let postsCount ← optional 0 asWord given "posts_count"
  return ⟨number, comment, subject, timestamp, postsCount⟩

/-- A listing. -/
def Listing.decode : Decoder Listing := fun value => do
  let given ← fields .refused ["board", "threads"] value
  let board ← optional "" asText given "board"
  let threads ← optional [] (asList Thread.decode) given "threads"
  return ⟨board, threads⟩

/-- An attached file. -/
def Attachment.decode : Decoder Attachment := fun value => do
  let given ← fields .refused ["name", "path", "size"] value
  let name ← required asText given "name"
  let path ← required asText given "path"
  let size ← optional 0 asWord given "size"
  return ⟨name, path, size⟩

/-- A post. -/
def Post.decode : Decoder Post := fun value => do
  let given ← fields .refused ["comment", "timestamp", "files"] value
  let comment ← optional "" asText given "comment"
  let timestamp ← required asWord given "timestamp"
  let files ← optional [] (asList Attachment.decode) given "files"
  return ⟨comment, timestamp, files⟩

/-- A run of posts. -/
def Posts.decode : Decoder Posts := fun value => do
  let given ← fields .refused ["posts"] value
  let posts ← optional [] (asList Post.decode) given "posts"
  return ⟨posts⟩

/-- A thread's payload. -/
def ThreadPayload.decode : Decoder ThreadPayload := fun value => do
  let given ← fields .refused ["threads"] value
  let threads ← optional [] (asList Posts.decode) given "threads"
  return ⟨threads⟩

end BoardRelay
