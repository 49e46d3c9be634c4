/-
# TtyGuard.Disk.Operation — making, writing, moving and removing entries

Every operation takes a path and gives the disk after it, or the reason why the disk stays as it is.
No permissions are asked: what they refuse is for the caller to say.
-/
import TtyGuard.Disk.Walk

namespace TtyGuard.Disk

/-! ## Files -/

/-- The entry of a new file for which these permissions are asked. -/
def newFile (d : Disk) (permissions : Nat) (bytes : List UInt8) : Entry :=
  .file d.freshNumber (d.granted permissions) bytes

/-- Makes an empty file where there is no entry yet; gives its location and number as well. -/
def createFile (d : Disk) (p : Path) (permissions : Nat) :
    Except SystemError (Location × Nat × Disk) := do
  match ← d.resolve .toReplace p with
  | .directory _ => throw .alreadyExists
  | .name dir name slash =>
    if slash then throw .isADirectory
    else if (d.get? (name :: dir)).isSome then throw .alreadyExists
    else return (name :: dir, d.freshNumber, d.insert (name :: dir) (d.newFile permissions []))

/-- Moves the file at a location to a path, in the place of what stands there; a directory is not
replaced. -/
def moveFile (d : Disk) (source : Location) (p : Path) : Except SystemError Disk := do
  match ← d.resolve .toReplace p with
  | .directory _ => throw .busy
  | .name dir name slash =>
    if slash then throw .notADirectory
    else
      match d.get? source, d.get? (name :: dir) with
      | none, _ => throw .notFound
      | some _, some (.directory _) => throw .isADirectory
      | some e, _ => return (d.erase source).insert (name :: dir) e

/-- Something that is open for writing. -/
inductive Handle where
  | file (number : Nat)
  | device (dev : Device)
deriving DecidableEq, Repr

/-- The permissions that opening asks for a file that it makes. -/
def openedPermissions : Nat := 0o666

/-- Opens a path for writing, links followed: a file loses its contents, and one that does not exist
is made. -/
def openEmptied (d : Disk) (p : Path) : Except SystemError (Handle × Disk) := do
  match ← d.resolve .toOpen p with
  | .directory _ => throw .isADirectory
  | .name dir name slash =>
    if slash then throw .isADirectory
    else
      match d.get? (name :: dir) with
      | some (.file number ..) =>
        return (.file number, d.changeFile number (Entry.withBytes []))
      | some (.device dev) => return (.device dev, d)
      | some (.directory _) => throw .isADirectory
      | some (.link _) => throw .linkLoop
      | none =>
        return (.file d.freshNumber, d.insert (name :: dir) (d.newFile openedPermissions []))

/-- Writes all bytes to an open handle, to a file from its start. -/
def writeAll (d : Disk) (h : Handle) (bytes : List UInt8) : Except SystemError Disk :=
  match h with
  | .file number => .ok (d.changeFile number (Entry.withStart bytes))
  | .device .full => if bytes.isEmpty then .ok d else .error .noSpace
  | .device _ => .ok d

/-- What appears in the program's output when bytes are written to a handle. -/
def Handle.shown (h : Handle) (bytes : List UInt8) : Option (Stream × List UInt8) :=
  match h with
  | .device (.stream s) => some (s, bytes)
  | _ => none

/-- Opens a path, empties it and writes the bytes. -/
def overwrite (d : Disk) (p : Path) (bytes : List UInt8) : Except SystemError Disk := do
  let (h, d) ← d.openEmptied p
  d.writeAll h bytes

/-! ## Other entries -/

/-- Puts a new entry where there is none yet. -/
def makeEntry (d : Disk) (p : Path) (e : Entry) : Except SystemError Disk := do
  match ← d.resolve .toReplace p with
  | .directory _ => throw .alreadyExists
  | .name dir name _ =>
    if (d.get? (name :: dir)).isSome then throw .alreadyExists
    return d.insert (name :: dir) e

/-- Makes a link. -/
def makeLink (d : Disk) (p target : Path) : Except SystemError Disk :=
  d.makeEntry p (.link target)

/-- Gives what stands at `existing` one more name. -/
def addName (d : Disk) (p existing : Path) : Except SystemError Disk := do
  let (_, e) ← d.occupied (← d.resolve .toEntry existing)
  d.makeEntry p e

/-- Makes the directories on the way to a path that do not exist yet, and the one it names. -/
def makeDirectories (d : Disk) (p : Path) : Disk :=
  (List.range p.steps.length).foldl (fun d n =>
    match d.walk .toEntry maxLinks (origin d.cwd p) (p.steps.take (n + 1)) with
    | .ok (.name dir name _) =>
      if (d.get? (name :: dir)).isSome then d
      else d.insert (name :: dir) (.directory (d.granted 0o777))
    | _ => d) d

/-- Sets the permissions of what a path leads to. -/
def setMode (d : Disk) (p : Path) (mode : Nat) : Except SystemError Disk := do
  let (loc, e) ← d.find p
  match e.number? with
  | some number => return d.changeFile number (Entry.withMode mode)
  | none => return d.insert loc (e.withMode mode)

/-- Removes the entry that a path names, and everything below it. -/
def remove (d : Disk) (p : Path) : Except SystemError Disk := do
  let (loc, _) ← d.occupied (← d.resolve .toEntry p)
  return { d with entries := d.entries.filter fun (other, _) => !loc.isSuffixOf other }

/-! ## Listing -/

/-- Everything below a location, as the names from there and the entry: a directory before what it
holds, names in the order of their bytes. -/
def listing (d : Disk) (loc : Location) : List (List String × Entry) :=
  let inside := d.entries.filterMap fun (other, e) =>
    if loc.isSuffixOf other && other.length ≠ loc.length then
      some ((other.take (other.length - loc.length)).reverse, e)
    else none
  inside.mergeSort fun a b => decide (¬ b.1 < a.1)

end TtyGuard.Disk
