/-
  BoardRelay.Disk.Fault
  ────────────────────────────────
  Why an operation on files failed, in the words and with the numbers of
  the operating system.
-/

namespace BoardRelay.Disk

/-- What went wrong with a file. -/
inductive Fault where
  | notFound
  | permissionDenied
  | busy
  | alreadyExists
  | notDirectory
  | isDirectory
  | nameTooLong
  | notEmpty
  /-- A name holds a NUL, so it cannot be passed on. -/
  | nulInName
  /-- The content was to be text and is not in UTF-8. -/
  | notText
  deriving Repr, DecidableEq

/-- The wording of a fault. -/
def Fault.message : Fault → String
  | .notFound => "No such file or directory (os error 2)"
  | .permissionDenied => "Permission denied (os error 13)"
  | .busy => "Device or resource busy (os error 16)"
  | .alreadyExists => "File exists (os error 17)"
  | .notDirectory => "Not a directory (os error 20)"
  | .isDirectory => "Is a directory (os error 21)"
  | .nameTooLong => "File name too long (os error 36)"
  | .notEmpty => "Directory not empty (os error 39)"
  | .nulInName => "file name contained an unexpected NUL byte"
  | .notText => "stream did not contain valid UTF-8"

end BoardRelay.Disk
