/-
  BoardRelay.Delivery.Converter
  ────────────────────────────────
  Turning one file on disk into another, as a program outside does it.
-/
import BoardRelay.Disk.Basic
import BoardRelay.Error
import BoardRelay.Text.Blank

namespace BoardRelay.Delivery

/-- Makes the file at the second path from the one at the first. -/
abbrev Converter := Disk.Path → Disk.Path → Disk → Except Error Unit × Disk

/-- How a run of a program ends. -/
inductive Ending where
  | notStarted (fault : Disk.Fault)
  | succeeded
  /-- With a status, in words, and what the program complained of. -/
  | failed (status complaint : String)
  deriving Repr, DecidableEq

/-- A program: what it does with its arguments. -/
abbrev Program := List String → Disk → Ending × Disk

/-- The program that is not there. -/
def Program.missing : Program :=
  fun _ disk => (.notStarted .notFound, disk)

/-- The arguments of a conversion. -/
def arguments (input output : Disk.Path) : List String :=
  ["-y", "-loglevel", "error", "-i", input.text, output.text]

/-- The converter that a program of a name is. -/
def Converter.ofProgram (name : String) (program : Program) : Converter :=
  fun input output disk =>
    match program (arguments input output) disk with
    | (.notStarted fault, disk) => (.error (.conversion (.notRunnable name fault)), disk)
    | (.succeeded, disk) => (.ok (), disk)
    | (.failed status complaint, disk) =>
      let said := String.ofList (Text.trim complaint.toList)
      (.error (.conversion (.exited name status said)), disk)

end BoardRelay.Delivery
