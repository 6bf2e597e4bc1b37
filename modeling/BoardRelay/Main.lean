/-
  BoardRelay.Main
  ────────────────────────────────
  The program: takes the settings file and the store file from the real
  disk, runs the command line on them, and puts the store file back.  It
  knows no servers and no programs.
-/
import BoardRelay.CommandLine.Run

namespace BoardRelay.Main

open BoardRelay.CommandLine

/-- The disk with a real file in it, if there is one. -/
def fetchFile (path : String) (disk : Disk) : IO Disk := do
  try
    let content ← IO.FS.readBinFile path
    let place := Disk.Path.ofText path
    let disk := (Store.withParents place disk).toOption.getD disk
    return (disk.write place content.toList).toOption.getD disk
  catch _ => return disk

/-- Puts a file of the disk back in its real place, beside it first. -/
def storeFile (path : String) (before after : Disk) : IO Unit := do
  let place := Disk.Path.ofText path
  match after.read place with
  | .error _ => return
  | .ok content =>
    if (before.read place).toOption == some content then return
    if let some above := place.parent? then
      if !above.isEmpty then IO.FS.createDirAll above.text
    let beside := (Store.besidePath place).text
    IO.FS.writeBinFile beside (ByteArray.mk content.toArray)
    IO.FS.rename beside path

/-- The path of the store file that a command line works on. -/
def storePath (words : List String) (disk : Disk) : String :=
  match Invocation.read words with
  | .error _ => ({} : Settings).storage.path
  | .ok invocation =>
    (Settings.loadOrDefault (Disk.Path.ofText invocation.settings) disk).storage.path

/-- The path of the settings file that a command line names. -/
def settingsPath (words : List String) : String :=
  match Invocation.read words with
  | .error _ => "data/config.toml"
  | .ok invocation => invocation.settings

end BoardRelay.Main

open BoardRelay in
/-- Runs the command line. -/
def main (words : List String) : IO UInt32 := do
  let settled ← Main.fetchFile (Main.settingsPath words) Disk.empty
  let store := Main.storePath words settled
  let disk ← Main.fetchFile store settled
  let outcome := CommandLine.run ⟨Surroundings.none, 0⟩ words disk
  Main.storeFile store disk outcome.disk
  IO.print outcome.output
  match outcome.error with
  | none => pure ()
  | some error => IO.eprintln ("Error: " ++ error.message)
  return UInt32.ofNat outcome.code
