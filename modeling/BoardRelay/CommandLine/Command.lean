/-
  BoardRelay.CommandLine.Command
  ────────────────────────────────
  The commands, and how they are read from the words of a command line.
-/
import BoardRelay.CommandLine.Words
import BoardRelay.Text.Digits
import BoardRelay.Word64

namespace BoardRelay.CommandLine

/-- A command. -/
inductive Command where
  /-- Starts cycles at the interval until interrupted. -/
  | run
  /-- Runs one cycle and its deliveries. -/
  | once
  /-- Checks settings and stored subscriptions. -/
  | validate
  /-- Tries tags on a text, and kinds on a file name. -/
  | check (tags kinds text : String) (file : Option String)
  | addUser (chat : Int64)
  | add (chat : Int64) (request : String)
  | share (request : String)
  | unshare (aliasName : String)
  | join (chat : Int64) (aliasName : String)
  | remove (chat id : Int64)
  | list (chat : Option Int64) (shared : Bool)
  | cursor
  deriving Repr, DecidableEq

/-- What a command line asks for. -/
structure Invocation where
  /-- The path of the settings file. -/
  settings : String
  command : Command
  deriving Repr, DecidableEq

/-! ## §1. Values -/

/-- The signed word that a text writes in digits, with or without a sign. -/
def signedWord? (text : String) : Option Int64 := do
  let (negative, digits) := match text.toList with
    | '-' :: digits => (true, digits)
    | '+' :: digits => (false, digits)
    | digits => (false, digits)
  if digits.isEmpty then none
  let size ← Text.number? 10 digits
  Word64.signed? (if negative then -size else size)

/-- A signed word, or misuse. -/
def signedWord (text : String) : Except Stop Int64 :=
  match signedWord? text with
  | some value => .ok value
  | none => .error .misuse

/-- The value of an option that must be given. -/
def wanted (name : String) (given : Given) : Except Stop String :=
  match given.value? name with
  | some value => .ok value
  | none => .error .misuse

/-! ## §2. Commands -/

/-- The flags before the command. -/
def commonFlags : List Flag :=
  [⟨"config", some 'c', true⟩, ⟨"verbose", some 'v', false⟩]

/-- The flags of the command that tries tags and kinds. -/
def checkFlags : List Flag :=
  [⟨"tags", none, true⟩, ⟨"types", none, true⟩, ⟨"text", none, true⟩, ⟨"file", none, true⟩]

/-- The flags of the command that lists subscriptions. -/
def listFlags : List Flag :=
  [⟨"chat-id", none, true⟩, ⟨"shared", none, false⟩]

/-- What the words after a command give. -/
def readRest (flags : List Flag) (words : List String) : Except Stop Given :=
  (readWords false false flags words .nothing).map (·.1)

/-- The words after a command that takes exactly so many plain words. -/
def readPlain (count : Nat) (words : List String) : Except Stop (List String) := do
  let given ← readRest [] words
  if given.plain.length = count then .ok given.plain else .error .misuse

/-- A command that takes nothing. -/
def readBare (command : Command) (words : List String) : Except Stop Command := do
  let _ ← readPlain 0 words
  return command

/-- The command that tries tags and kinds. -/
def readCheck (words : List String) : Except Stop Command := do
  let given ← readRest checkFlags words
  if !given.plain.isEmpty then .error .misuse
  let tags ← wanted "tags" given
  let text ← wanted "text" given
  return .check tags ((given.value? "types").getD ".img.gif.webm") text (given.value? "file")

/-- The command that lists subscriptions: of one chat, or the shared ones, or
all. -/
def readList (words : List String) : Except Stop Command := do
  let given ← readRest listFlags words
  if !given.plain.isEmpty || (given.has "chat-id" && given.has "shared") then .error .misuse
  match given.value? "chat-id" with
  | none => return .list none (given.has "shared")
  | some chat => return .list (some (← signedWord chat)) false

/-- A command made from one plain word. -/
def readOne (make : String → Except Stop Command) (words : List String) : Except Stop Command := do
  match ← readPlain 1 words with
  | [word] => make word
  | _ => .error .misuse

/-- A command made from a chat and one more plain word. -/
def readTwo (make : Int64 → String → Except Stop Command) (words : List String) :
    Except Stop Command := do
  match ← readPlain 2 words with
  | [chat, word] => make (← signedWord chat) word
  | _ => .error .misuse

/-- The name of a command within a group of commands, and the words after
it. -/
def readGroup (words : List String) : Except Stop (String × List String) := do
  match ← readWords false true [] words .nothing with
  | (_, name :: rest) => return (name, rest)
  | (_, []) => .error .misuse

/-- The commands about users. -/
def readUser (words : List String) : Except Stop Command := do
  let (name, rest) ← readGroup words
  match name with
  | "add" => readOne (fun chat => (signedWord chat).map .addUser) rest
  | "help" => .error .help
  | _ => .error .misuse

/-- The commands about subscriptions. -/
def readSubscription (words : List String) : Except Stop Command := do
  let (name, rest) ← readGroup words
  match name with
  | "add" => readTwo (fun chat request => .ok (.add chat request)) rest
  | "share" => readOne (fun request => .ok (.share request)) rest
  | "unshare" => readOne (fun aliasName => .ok (.unshare aliasName)) rest
  | "join" => readTwo (fun chat aliasName => .ok (.join chat aliasName)) rest
  | "remove" => readTwo (fun chat id => (signedWord id).map (.remove chat)) rest
  | "list" => readList rest
  | "help" => .error .help
  | _ => .error .misuse

/-- A command by its name, with the words after it. -/
def readCommand (name : String) (rest : List String) : Except Stop Command :=
  match name with
  | "run" => readBare .run rest
  | "once" => readBare .once rest
  | "validate" => readBare .validate rest
  | "check" => readCheck rest
  | "user" => readUser rest
  | "sub" => readSubscription rest
  | "cursor" => readBare .cursor rest
  | "help" => .error .help
  | _ => .error .misuse

/-- Reads a command line.  The path of the settings file is not empty. -/
def Invocation.read (words : List String) : Except Stop Invocation := do
  let (given, rest) ← readWords true true commonFlags words .nothing
  let settings := (given.value? "config").getD "data/config.toml"
  if settings = "" then .error .misuse
  match rest with
  | [] => .error .misuse
  | name :: rest => return ⟨settings, ← readCommand name rest⟩

end BoardRelay.CommandLine
