/-
  BoardRelay.CommandLine.Run
  ────────────────────────────────
  What the commands do and print.  A command that fails prints nothing and
  exits with 1; words that make no sense exit with 2.
-/
import BoardRelay.Clock.Date
import BoardRelay.CommandLine.Command
import BoardRelay.Crawl.Poller
import BoardRelay.Relay.Basic
import BoardRelay.Settings.File
import BoardRelay.Store.Change
import BoardRelay.Subscription.Filter
import BoardRelay.Text.Quoted

namespace BoardRelay.CommandLine

/-! ## §1. Lines -/

/-- A line for a subscription. -/
def line (s : Subscription) : String :=
  "#" ++ toString s.id.toInt ++ " /" ++ s.board ++ "/ " ++ s.kinds ++ " " ++ s.tags ++
    (if s.shared then " [" ++ s.aliasName ++ "]" else "") ++ "\n"

/-- A line for a user. -/
def userLine (user : User) : String :=
  "user " ++ toString user.id.toInt ++ " chat " ++ toString user.chat.toInt ++ "\n"

/-- The line for the answer to a change. -/
def replyLine : Store.Reply → String
  | .user user => userLine user
  | .subscription s => line s
  | .removed _ => ""

/-- The line for a cursor: the number, and the date of the instant that it
is as a signed word. -/
def cursorLine (cursor : UInt64) : String :=
  toString cursor ++ " (" ++
    (Clock.textOfSeconds? cursor.toInt64.toInt).getD "out of range" ++ ")\n"

/-- The lines for tags tried on a text and kinds tried on a file name. -/
def checkLines (query : Tags.Query) (kinds : FileKinds) (text : String) (file : Option String) :
    String :=
  "tags  " ++ Text.quoted text ++ " -> " ++ toString (query.matches text) ++ "\n" ++
    match file with
    | none => ""
    | some file =>
      "types " ++ Text.quoted file ++ " (" ++ kinds.write ++ ") -> " ++
        toString (kinds.accepts file) ++ "\n"

/-! ## §2. Commands -/

/-- What the commands run in: servers and programs, and when the poller is
interrupted, in milliseconds. -/
structure Situation where
  surroundings : Surroundings
  interrupt : Nat

/-- What a command comes to: what it prints, and the disk it leaves. -/
abbrev Answer := Except Error String × Disk

/-- The number of subscriptions whose tags cannot be read. -/
def unreadable (subscriptions : List Subscription) : Nat :=
  subscriptions.countP fun s => !(Tags.Query.read s.tags).isOk

/-- Makes a change in the stored document. -/
def change (saved : Store.Saved) (wish : Store.Change) (disk : Disk) : Answer :=
  let (reply, _, disk) := saved.update wish.apply disk
  (reply.map replyLine, disk)

/-- One cycle with its deliveries. -/
def once (settings : Settings) (situation : Situation) (saved : Store.Saved) (disk : Disk) :
    Answer :=
  match Relay.make settings situation.surroundings disk with
  | .error e => (.error e, disk)
  | .ok (relay, depot) =>
    let (result, _, depot) := relay.cycle saved depot
    (result.map fun _ => "", depot.disk)

/-- Cycles at the interval until the interruption. -/
def poll (settings : Settings) (situation : Situation) (saved : Store.Saved) (disk : Disk) :
    Answer :=
  match Relay.make settings situation.surroundings disk with
  | .error e => (.error e, disk)
  | .ok (relay, depot) =>
    let tick := fun (state : Store.Saved × Delivery.Depot Unit) =>
      (0, (relay.cycle state.1 state.2).2)
    let interval := settings.polling.intervalSeconds.toNat * 1000
    let (_, poller) := Crawl.Poller.poll interval situation.interrupt tick (saved, depot)
    (.ok "", poller.state.2.disk)

/-- Runs a command on the store. -/
def runStored (settings : Settings) (situation : Situation) (saved : Store.Saved) (disk : Disk) :
    Command → Answer
  | .run => poll settings situation saved disk
  | .once => once settings situation saved disk
  | .validate =>
    match unreadable saved.store.subscriptions with
    | 0 => (.ok "", disk)
    | count => (.error (.invalid (.storedTags count)), disk)
  | .check _ _ _ _ => (.ok "", disk)
  | .addUser chat => change saved (.register chat) disk
  | .add chat request => change saved (.addRequest chat request) disk
  | .share request => change saved (.shareRequest request) disk
  | .unshare aliasName => change saved (.unshare aliasName) disk
  | .join chat aliasName => change saved (.join chat aliasName) disk
  | .remove chat id => change saved (.remove chat id) disk
  | .list chat shared =>
    let listed := match chat with
      | some chat => saved.store.subscriptionsOf chat
      | none => if shared then saved.store.shared else saved.store.subscriptions
    (.ok (String.join (listed.map line)), disk)
  | .cursor => (.ok (cursorLine saved.store.cursor), disk)

/-- Runs a command with checked settings. -/
def runCommand (settings : Settings) (situation : Situation) (command : Command) (disk : Disk) :
    Answer :=
  match command with
  | .check tags kinds text file =>
    match Tags.Query.read tags with
    | .error e => (.error (.query e), disk)
    | .ok query => (.ok (checkLines query (FileKinds.read kinds) text file), disk)
  | command =>
    match Store.Saved.load (Disk.Path.ofText settings.storage.path) disk with
    | .error e => (.error e, disk)
    | .ok saved => runStored settings situation saved disk command

/-! ## §3. Command lines -/

/-- How a run ends. -/
structure Outcome where
  code : Nat
  /-- What was printed. -/
  output : String
  /-- The error, if it is one of a command. -/
  error : Option Error
  disk : Disk

/-- What the relay calls itself. -/
def versionLine : String :=
  "threadwatch 0.1.0\n"

/-- Runs a command line. -/
def run (situation : Situation) (words : List String) (disk : Disk) : Outcome :=
  match Invocation.read words with
  | .error .version => ⟨0, versionLine, none, disk⟩
  | .error .help => ⟨0, "", none, disk⟩
  | .error .misuse => ⟨2, "", none, disk⟩
  | .ok invocation =>
    match Settings.loadChecked (Disk.Path.ofText invocation.settings) disk with
    | .error e => ⟨1, "", some e, disk⟩
    | .ok settings =>
      match runCommand settings situation invocation.command disk with
      | (.ok output, disk) => ⟨0, output, none, disk⟩
      | (.error e, disk) => ⟨1, "", some e, disk⟩

end BoardRelay.CommandLine
