/-
# TtyGuard.Artifact — putting bytes at a path, whole or not at all

A file is not written where it stands.  The bytes go to a file of a new name beside it, which is then
moved into its place, so that no reader sees half of them and a failure leaves no trace.  Links are
followed first.  What cannot be replaced that way is written in place: a device, and a link that
leads nowhere yet.

The tree says what a write does where everything is allowed.  What the user may not do and what there
is no room for is said beside it, step by step, by a `Hindrance`.
-/
import TtyGuard.Disk.Operation

namespace TtyGuard.Artifact

/-! ## Results -/

/-- Why bytes did not get to a path, which is named as it was given. -/
inductive WriteError where
  /-- Neither the file nor one beside it could be opened. -/
  | cannotOpen (path : Path) (cause : SystemError)
  /-- The bytes could not be written. -/
  | cannotWrite (path : Path) (cause : SystemError)
  /-- The bytes could not be brought to the device that keeps them. -/
  | cannotSync (path : Path) (cause : SystemError)
  /-- The new file could not be moved into place. -/
  | cannotPersist (path : Path) (cause : SystemError)
  /-- The path ends in no name. -/
  | notAFile (path : Path)
deriving DecidableEq, Repr

namespace WriteError

/-- The path that was given. -/
def path : WriteError → Path
  | cannotOpen path _ | cannotWrite path _ | cannotSync path _ | cannotPersist path _
  | notAFile path => path

/-- The kernel's reason, if there is one. -/
def cause? : WriteError → Option SystemError
  | cannotOpen _ cause | cannotWrite _ cause | cannotSync _ cause | cannotPersist _ cause =>
    some cause
  | notAFile _ => none

/-- The text shown for the error. -/
def message : WriteError → String
  | cannotOpen path cause => s!"Cannot open '{path.text}': {cause.message}"
  | cannotWrite path cause => s!"Write to '{path.text}' failed: {cause.message}"
  | cannotSync path cause => s!"Cannot flush '{path.text}' to disk: {cause.message}"
  | cannotPersist path cause =>
    s!"Cannot move the filter into place at '{path.text}': {cause.message}"
  | notAFile path => s!"'{path.text}' does not name a file"

end WriteError

/-- How a write ended, the disk after it, and what was seen meanwhile. -/
structure Outcome where
  result : Except WriteError Unit
  disk : Disk
  events : List Event

/-- A detail worth logging. -/
def detail (text : String) : Event :=
  .logged ⟨.debug, "tiocsti_filter::output", text⟩

/-! ## What stops a write -/

/-- What can stop a write although the tree allows it: a lack of room, of rights or of handles.  A
step that is not refused is carried out.  These are the steps of writing; finding out where a path
leads is none of them and is never refused, as for a user to whom no directory is closed. -/
structure Hindrance where
  /-- Why no file can be made beside the target. -/
  making : Option SystemError := none
  /-- How many bytes the new file takes, and why it takes no more. -/
  filling : Option (Nat × SystemError) := none
  /-- Why its bytes cannot be brought to the device that keeps them. -/
  syncing : Option SystemError := none
  /-- Why the new file cannot be moved. -/
  moving : Option SystemError := none
  /-- Why what the path leads to cannot be opened. -/
  opening : Option SystemError := none
deriving DecidableEq, Repr

/-- What a step gives unless it is refused. -/
def attempt {α : Type} (refusal : Option SystemError) (step : Except SystemError α) :
    Except SystemError α :=
  refusal.elim step .error

/-! ## Where the bytes go -/

/-- How a path is to be written. -/
inductive Destination where
  /-- A new file is moved to this path. -/
  | replace (target : Path)
  /-- What the path leads to is opened. -/
  | inPlace
deriving DecidableEq, Repr

/-- Where a path leads: to a device, to something else that exists, or nowhere, and then perhaps
through a link.  No directory is closed to the user: behind one that is, a path would count as
leading nowhere. -/
def destination (d : Disk) (p : Path) : Destination :=
  match d.canonical p with
  | .ok (_, .device _) => .inPlace
  | .ok (loc, _) => .replace (.ofLocation loc)
  | .error _ => if d.isLink p then .inPlace else .replace p

/-- The permissions that are asked for the file in which the bytes are gathered. -/
def stagedPermissions : Nat := 0o644

/-- The name of the file in which the bytes for `name` are gathered; `token` makes it unique. -/
def stagedName (name token : String) : String := s!".{name}.{token}.tmp"

/-- The path of that file, beside the target and seen from the root. -/
def stagedPath (d : Disk) (target : Path) (name token : String) : Path :=
  let beside := target.parent.under ⟨stagedName name token, []⟩
  if beside.isAbsolute then beside else (Path.ofLocation d.cwd).under beside

/-! ## Writing -/

/-- Makes the file in which the bytes are gathered, at the first of the paths whose name is not
taken. -/
def stage (d : Disk) : List Path → Except SystemError (Path × Location × Nat × Disk)
  | [] => .error .alreadyExists
  | path :: paths =>
    match d.createFile path stagedPermissions with
    | .ok (loc, number, after) => .ok (path, loc, number, after)
    | .error .alreadyExists => stage d paths
    | .error e => .error e

/-- Writes the bytes to the file with a number, or as many as it takes: the disk after it, and why
it takes no more. -/
def fill (o : Hindrance) (d : Disk) (number : Nat) (bytes : List UInt8) :
    Disk × Option SystemError :=
  match o.filling with
  | none => (d.changeFile number (Entry.withStart bytes), none)
  | some (taken, cause) =>
    (d.changeFile number (Entry.withStart (bytes.take taken)), some cause)

/-- Gathers the bytes in a file beside the target and moves it there.  A file that does not take the
bytes, does not keep them or cannot be moved is removed. -/
def replace (o : Hindrance) (d : Disk) (draws : List String) (p target : Path)
    (bytes : List UInt8) : Outcome :=
  match target.fileName? with
  | none => ⟨.error (.notAFile p), d, []⟩
  | some name =>
    match attempt o.making (stage d (draws.map (stagedPath d target name))) with
    | .error e => ⟨.error (.cannotOpen p e), d, []⟩
    | .ok (path, loc, number, staged) =>
      let events := [detail s!"staging filter in '{path.text}'"]
      match fill o staged number bytes with
      | (filled, some e) => ⟨.error (.cannotWrite p e), filled.erase loc, events⟩
      | (filled, none) =>
        match attempt o.syncing (.ok ()) with
        | .error e => ⟨.error (.cannotSync p e), filled.erase loc, events⟩
        | .ok () =>
          match attempt o.moving (filled.moveFile loc target) with
          | .ok after => ⟨.ok (), after, events⟩
          | .error e => ⟨.error (.cannotPersist p e), filled.erase loc, events⟩

/-- Opens what the path leads to and writes the bytes there.  A file that was opened takes them. -/
def writeInPlace (o : Hindrance) (d : Disk) (p : Path) (bytes : List UInt8) : Outcome :=
  let events := [detail s!"writing '{p.text}' in place"]
  match attempt o.opening (d.openEmptied p) with
  | .error e => ⟨.error (.cannotOpen p e), d, events⟩
  | .ok (h, opened) =>
    match opened.writeAll h bytes with
    | .error e => ⟨.error (.cannotWrite p e), opened, events⟩
    | .ok after =>
      let shown := (h.shown bytes).toList.map fun (s, bytes) => Event.emitted s bytes
      ⟨.ok (), after, events ++ shown⟩

/-- Puts the bytes at the path.  `draws` are random tokens for the name of a new file. -/
def write (o : Hindrance) (d : Disk) (draws : List String) (p : Path) (bytes : List UInt8) :
    Outcome :=
  match destination d p with
  | .inPlace => writeInPlace o d p bytes
  | .replace target => replace o d draws p target bytes

end TtyGuard.Artifact
