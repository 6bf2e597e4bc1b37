/-
  BoardRelay.CommandLine.Words
  ────────────────────────────────
  The words of a command line: options with or without a value, and plain
  words.  A word after two lone dashes is plain whatever it looks like; any
  other word with a dash in front is an option, and never the value of one
  unless it is joined to it.
-/

namespace BoardRelay.CommandLine

/-- An option that may be given once. -/
structure Flag where
  name : String
  letter : Option Char
  /-- Whether a value follows. -/
  valued : Bool
  deriving Repr, DecidableEq

/-- Why reading ends early. -/
inductive Stop where
  | version
  | help
  /-- The words make no sense. -/
  | misuse
  deriving Repr, DecidableEq

/-- What the words give: options by name, and plain words. -/
structure Given where
  options : List (String × String)
  plain : List String
  deriving Repr, DecidableEq

namespace Given

/-- Nothing. -/
def nothing : Given :=
  ⟨[], []⟩

/-- The value of an option; an option without a value has an empty one. -/
def value? (name : String) (given : Given) : Option String :=
  given.options.lookup name

/-- Whether an option is given. -/
def has (name : String) (given : Given) : Bool :=
  (given.value? name).isSome

/-- An option more, unless it has been given before. -/
def add (name value : String) (given : Given) : Except Stop Given :=
  if given.has name then .error .misuse
  else .ok { given with options := given.options ++ [(name, value)] }

end Given

/-! ## Reading -/

/-- A flag that stops reading, on any level. -/
def stopOfName (versioned : Bool) (name : String) : Stop :=
  if name = "help" then .help
  else if versioned && name = "version" then .version
  else .misuse

/-- A letter that stops reading. -/
def stopOfLetter (versioned : Bool) (letter : Char) : Stop :=
  if letter = 'h' then .help
  else if versioned && letter = 'V' then .version
  else .misuse

/-- Whether a word looks like an option. -/
def looksLikeOption (word : List Char) : Bool :=
  match word with
  | '-' :: _ :: _ => true
  | _ => false

/-- What letters behind a single dash come to. -/
inductive Letters where
  | done (given : Given)
  /-- The last letter is an option whose value is to follow. -/
  | wants (name : String) (given : Given)

/-- Reads letters behind a single dash. -/
def readLetters (versioned : Bool) (flags : List Flag) : List Char → Given → Except Stop Letters
  | [], given => .ok (.done given)
  | letter :: rest, given =>
    match flags.find? fun flag => flag.letter = some letter with
    | none => .error (stopOfLetter versioned letter)
    | some flag =>
      if flag.valued then
        match rest with
        | [] => .ok (.wants flag.name given)
        | '=' :: value => (given.add flag.name (String.ofList value)).map .done
        | value => (given.add flag.name (String.ofList value)).map .done
      else
        match given.add flag.name "" with
        | .error stop => .error stop
        | .ok given => readLetters versioned flags rest given

/-- A name behind two dashes, and the value joined to it. -/
def splitName (word : List Char) : String × Option String :=
  let name := word.takeWhile (· != '=')
  match word.dropWhile (· != '=') with
  | [] => (String.ofList name, none)
  | _ :: value => (String.ofList name, some (String.ofList value))

/-- What a word with two dashes in front comes to. -/
def readName (versioned : Bool) (flags : List Flag) (word : List Char) (given : Given) :
    Except Stop Letters :=
  let (name, joined) := splitName word
  match flags.find? fun flag => flag.name = name with
  | none => .error (stopOfName versioned name)
  | some flag =>
    match flag.valued, joined with
    | true, some value => (given.add name value).map .done
    | true, none => .ok (.wants name given)
    | false, some _ => .error .misuse
    | false, none => (given.add name "").map .done

/-- Reads words.  With `leading`, stops in front of the first plain word and
gives the rest. -/
def readWords (versioned leading : Bool) (flags : List Flag) :
    List String → Given → Except Stop (Given × List String)
  | [], given => .ok (given, [])
  | word :: rest, given =>
    let step := match word.toList with
      | '-' :: '-' :: name => some (readName versioned flags name given)
      | '-' :: letter :: letters => some (readLetters versioned flags (letter :: letters) given)
      | _ => none
    if word = "--" then
      if leading then .error .misuse else .ok ({ given with plain := given.plain ++ rest }, [])
    else
      match step with
      | none =>
        if leading then .ok (given, word :: rest)
        else readWords versioned leading flags rest { given with plain := given.plain ++ [word] }
      | some (.error stop) => .error stop
      | some (.ok (.done given)) => readWords versioned leading flags rest given
      | some (.ok (.wants name given)) =>
        match rest with
        | [] => .error .misuse
        | value :: rest =>
          if looksLikeOption value.toList then .error .misuse
          else
            match given.add name value with
            | .error stop => .error stop
            | .ok given => readWords versioned leading flags rest given

end BoardRelay.CommandLine
