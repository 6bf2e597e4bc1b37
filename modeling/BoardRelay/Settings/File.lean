/-
  BoardRelay.Settings.File
  ────────────────────────────────
  Settings from a TOML file.  A file that cannot be read, whatever the
  reason, leaves all settings at their defaults; settings that are read and
  not sound are refused.
-/
import BoardRelay.Disk.Basic
import BoardRelay.Settings.Record
import BoardRelay.Toml.Reader

namespace BoardRelay.Settings

/-- The settings that a TOML text gives. -/
def ofToml (text : List Char) : Except Error Settings :=
  match (Toml.read text).bind (decode .ignored) with
  | some settings => .ok settings
  | none => .error .toml

/-- The settings in a file. -/
def load (path : Disk.Path) (disk : Disk) : Except Error Settings :=
  match disk.readText path with
  | .ok text => ofToml text
  | .error fault => .error (.disk fault)

/-- The settings in a file, or the defaults. -/
def loadOrDefault (path : Disk.Path) (disk : Disk) : Settings :=
  match load path disk with
  | .ok settings => settings
  | .error _ => {}

/-- The settings to work with: those in a file or the defaults, if they are
sound. -/
def loadChecked (path : Disk.Path) (disk : Disk) : Except Error Settings := do
  let settings := loadOrDefault path disk
  settings.check
  return settings

end BoardRelay.Settings
