/-
  BoardRelay.Error
  ────────────────────────────────
  Everything that can go wrong, by cause.  The wording of each cause stands
  in `Error.message` and in the `message` of the parts it is made of.
-/
import BoardRelay.Disk.Fault
import BoardRelay.Http.Error
import BoardRelay.Tags.Error
import BoardRelay.Url.Error

namespace BoardRelay

/-- Something that was asked for and cannot be granted. -/
inductive Invalid where
  /-- A request is not made of board, kinds and tags. -/
  | requestShape
  | missingTags
  | aliasShape
  | boardName (name : String)
  | kindList (text : String)
  | aliasTaken (aliasName : String)
  | aliasUnknown (aliasName : String)
  /-- A setting that must have text has none. -/
  | emptySetting (setting : String)
  /-- A setting that must be a positive number is zero. -/
  | zeroSetting (setting : String)
  /-- A template lacks the placeholder that it is for. -/
  | missingPlaceholder (setting placeholder : String)
  /-- Stored subscriptions whose tags cannot be read. -/
  | storedTags (count : Nat)
  deriving Repr, DecidableEq

/-- The wording of a refusal. -/
def Invalid.message : Invalid → String
  | .requestShape => "request must look like: board .types \"tag\""
  | .missingTags => "tag expression is missing"
  | .aliasShape => "alias must be a single word"
  | .boardName name => "bad board name " ++ Text.quoted name
  | .kindList text => "bad type list " ++ Text.quoted text
  | .aliasTaken aliasName => "alias " ++ Text.quoted aliasName ++ " is already taken"
  | .aliasUnknown aliasName => "no shared subscription " ++ Text.quoted aliasName
  | .emptySetting setting => setting ++ " is empty"
  | .zeroSetting setting => setting ++ " must be > 0"
  | .missingPlaceholder setting placeholder =>
    setting ++ " must contain \x7b" ++ placeholder ++ "\x7d"
  | .storedTags count => toString count ++ " subscriptions have invalid tag expressions"

/-- Why something could not be fetched or handed over. -/
inductive FetchFault where
  /-- An exchange of the relay's own failed. -/
  | http (error : Http.Error)
  /-- The answer was fetched and is not what it should be. -/
  | undecodable
  /-- A receiver of posted messages failed the exchange. -/
  | receiver (error : Http.Error)
  /-- The other side said no, in its own words. -/
  | refused (text : String)
  deriving Repr, DecidableEq

/-- The wording of a failed fetch. -/
def FetchFault.message : FetchFault → String
  | .http error => "HTTP error: " ++ error.message
  | .undecodable => "undecodable answer"
  | .receiver error => error.message
  | .refused text => text

/-- Why the store of subscriptions failed a reader. -/
inductive StoreFault where
  | cursorNotSaved (fault : Disk.Fault)
  /-- In the words of the store. -/
  | reported (text : String)
  deriving Repr, DecidableEq

/-- The wording of a store failure. -/
def StoreFault.message : StoreFault → String
  | .cursorNotSaved fault => "cannot persist cursor: I/O error: " ++ fault.message
  | .reported text => text

/-- Why a video was not converted. -/
inductive ConversionFault where
  | notRunnable (program : String) (fault : Disk.Fault)
  | exited (program status complaint : String)
  /-- In the words of the converter. -/
  | reported (text : String)
  deriving Repr, DecidableEq

/-- The wording of a failed conversion. -/
def ConversionFault.message : ConversionFault → String
  | .notRunnable program fault => "cannot run " ++ program ++ ": " ++ fault.message
  | .exited program status complaint =>
    program ++ " exited with " ++ status ++ ": " ++ complaint
  | .reported text => text

/-- Whatever an operation can fail with. -/
inductive Error where
  | disk (fault : Disk.Fault)
  | http (error : Http.Error)
  /-- A JSON text does not hold what it should. -/
  | json
  /-- A TOML text does not hold what it should. -/
  | toml
  | url (error : Url.ReadError)
  | query (error : Tags.ReadError)
  | invalid (reason : Invalid)
  | fetch (subject : String) (fault : FetchFault)
  | store (fault : StoreFault)
  | fileTooLarge (size budget : UInt64)
  | quotaExhausted (size : UInt64)
  | conversion (fault : ConversionFault)
  | cycleInProgress
  | cycleDeadline (seconds : Nat)
  deriving Repr, DecidableEq

/-- The wording of an error. -/
def Error.message : Error → String
  | .disk fault => "I/O error: " ++ fault.message
  | .http error => "HTTP error: " ++ error.message
  | .json => "JSON error"
  | .toml => "TOML parse error"
  | .url error => "URL parse error: " ++ error.message
  | .query error => "Query error: " ++ error.message
  | .invalid reason => "Validation error: " ++ reason.message
  | .fetch subject fault => "Fetch error for " ++ subject ++ ": " ++ fault.message
  | .store fault => "Read model error: " ++ fault.message
  | .fileTooLarge size budget =>
    "File of " ++ toString size ++ " bytes does not fit the " ++ toString budget ++
      " byte staging quota"
  | .quotaExhausted size =>
    "Staging quota exhausted: " ++ toString size ++ " bytes could not be reserved"
  | .conversion fault => "Transcode error: " ++ fault.message
  | .cycleInProgress => "A sync cycle is already in progress"
  | .cycleDeadline seconds => "Sync cycle exceeded its " ++ toString seconds ++ "s deadline"

/-- The outcomes of an operation can be compared. -/
instance (priority := 2000) {α : Type} [DecidableEq α] : DecidableEq (Except Error α)
  | .ok value, .ok other =>
    decidable_of_iff (value = other) ⟨congrArg Except.ok, Except.ok.inj⟩
  | .error e, .error other =>
    decidable_of_iff (e = other) ⟨congrArg Except.error, Except.error.inj⟩
  | .ok _, .error _ => isFalse nofun
  | .error _, .ok _ => isFalse nofun

end BoardRelay
