/-
  BoardRelay.Toml.Tree
  ────────────────────────────────
  The tables of a TOML text while it is read.  A table may come about in
  three ways, and which of them it was decides what may still be added to
  it: a table is defined by one header at most, and neither a value nor a
  table that a header defined is extended by a dotted key.
-/
import BoardRelay.Json.Basic

namespace BoardRelay.Toml

/-- How a table came about. -/
inductive Origin where
  /-- A header names it. -/
  | defined
  /-- A header names a table below it. -/
  | implied
  /-- A dotted key goes through it. -/
  | dotted
  deriving Repr, DecidableEq

/-- What stands under a key. -/
inductive Entry where
  | value (value : Json)
  | table (origin : Origin) (entries : List (String × Entry))
  /-- The tables of a header in double brackets, the last one first. -/
  | tables (items : List (List (String × Entry)))

/-- The entries of a table. -/
abbrev Table := List (String × Entry)

/-- The table with what stands under a key replaced or added. -/
def Table.set (key : String) (entry : Entry) : Table → Table
  | [] => [(key, entry)]
  | (k, e) :: rest => if k = key then (key, entry) :: rest else (k, e) :: Table.set key entry rest

/-- Goes down the keys and changes the table there.  What is missing on the
way is made, by the way's own `origin`; a dotted way enters no table that a
header defined. -/
def descend (origin : Origin) (change : Origin → Table → Option Table) :
    List String → Origin → Table → Option Table
  | [], here, table => change here table
  | key :: path, _, table =>
    match table.lookup key with
    | none => do
      let below ← descend origin change path origin []
      return Table.set key (.table origin below) table
    | some (.value _) => none
    | some (.tables []) => none
    | some (.tables (last :: others)) => do
      let below ← descend origin change path .defined last
      return Table.set key (.tables (below :: others)) table
    | some (.table there entries) =>
      if origin = .dotted ∧ there = .defined then none
      else do
        let below ← descend origin change path there entries
        return Table.set key (.table there below) table

/-- Adds a key with its value.  The key must be new, and its table must have
come about by the very dots of this key, if it has any. -/
def addPair (path : List String) (key : String) (value : Json) (table : Table) : Option Table :=
  let add (here : Origin) (table : Table) : Option Table :=
    if (here = .dotted) = path.isEmpty then none
    else match table.lookup key with
      | some _ => none
      | none => some (table ++ [(key, .value value)])
  descend .dotted add path .defined table

/-- Adds a table that a header names. -/
def addTable (path : List String) (key : String) (table : Table) : Option Table :=
  let add (_ : Origin) (table : Table) : Option Table :=
    match table.lookup key with
    | none => some (Table.set key (.table .defined []) table)
    | some (.table .implied entries) => some (Table.set key (.table .defined entries) table)
    | some _ => none
  descend .implied add path .defined table

/-- Adds a table to those that a header in double brackets names. -/
def addItem (path : List String) (key : String) (table : Table) : Option Table :=
  let add (_ : Origin) (table : Table) : Option Table :=
    match table.lookup key with
    | none => some (Table.set key (.tables [[]]) table)
    | some (.tables items) => some (Table.set key (.tables ([] :: items)) table)
    | some _ => none
  descend .implied add path .defined table

mutual

/-- An entry as a JSON value. -/
def Entry.toJson : Entry → Json
  | .value value => value
  | .table _ entries => .object (membersOf entries)
  | .tables items => .array (itemsOf items []) 

/-- The entries of a table as members of an object. -/
def membersOf : List (String × Entry) → List (Option String × Json)
  | [] => []
  | (key, entry) :: rest => (some key, entry.toJson) :: membersOf rest

/-- Tables as objects, in the order of the text. -/
def itemsOf : List (List (String × Entry)) → List Json → List Json
  | [], done => done
  | table :: rest, done => itemsOf rest (.object (membersOf table) :: done)

end

end BoardRelay.Toml
