/-
# TtyGuard.Disk.SystemError — why the kernel refuses an operation on the disk

Each cause but one has a number and a text of its own; a path with a NUL never reaches the kernel.
-/

namespace TtyGuard

/-- Why an operation on the disk is refused. -/
inductive SystemError where
  /-- There is no entry of this name. -/
  | notFound
  /-- The user may not do this here. -/
  | permissionDenied
  /-- There is an entry of this name already. -/
  | alreadyExists
  /-- The directory cannot be replaced. -/
  | busy
  /-- Something that is not a directory is used as one. -/
  | notADirectory
  /-- A directory is used as a file. -/
  | isADirectory
  /-- There is no room for the bytes. -/
  | noSpace
  /-- A name or a path is too long. -/
  | nameTooLong
  /-- Too many links were followed. -/
  | linkLoop
  /-- The path holds a NUL. -/
  | nulInPath
  /-- Anything else, with its number and text. -/
  | other (number : Nat) (text : String)
deriving DecidableEq, Repr

namespace SystemError

/-- The error's number and text, if it comes from the kernel. -/
def numbered? : SystemError → Option (Nat × String)
  | notFound => some (2, "No such file or directory")
  | permissionDenied => some (13, "Permission denied")
  | busy => some (16, "Device or resource busy")
  | alreadyExists => some (17, "File exists")
  | notADirectory => some (20, "Not a directory")
  | isADirectory => some (21, "Is a directory")
  | noSpace => some (28, "No space left on device")
  | nameTooLong => some (36, "File name too long")
  | linkLoop => some (40, "Too many levels of symbolic links")
  | other number text => some (number, text)
  | nulInPath => none

/-- The text shown for the error. -/
def message (e : SystemError) : String :=
  match e.numbered? with
  | some (number, text) => s!"{text} (os error {number})"
  | none => "file name contained an unexpected NUL byte"

end SystemError

end TtyGuard
