/-
# TtyGuard.Disk.Walk — where a path leads

The kernel walks a path step by step from the root or the working directory and follows the links on
its way, at most forty of them.  What becomes of the last name is for the operation to decide:
whether a link there is followed, and whether slashes after it count as one more step or are kept for
the operation to judge.  A walk ends in a `Slot`: a directory, or a name in one, taken or not.
-/
import TtyGuard.Disk.Basic
import TtyGuard.Disk.SystemError

namespace TtyGuard.Disk

open TtyGuard.Path (Step)

/-! ## Limits -/

/-- The longest name of an entry, in bytes. -/
def maxNameLength : Nat := 255

/-- The longest text of a path that the kernel takes, in bytes. -/
def maxPathLength : Nat := 4095

/-- How many links one walk may follow. -/
def maxLinks : Nat := 40

/-! ## Walking -/

/-- Where a walk ends. -/
inductive Slot where
  /-- At a directory that was not reached by its name. -/
  | directory (loc : Location)
  /-- At a name in a directory, perhaps with slashes after it. -/
  | name (dir : Location) (name : String) (slash : Bool)
deriving DecidableEq, Repr

/-- How a walk treats the last name of a path. -/
structure Manner where
  /-- A link there is followed. -/
  follow : Bool
  /-- Slashes after it are left to the operation, which sees the name itself. -/
  keepSlash : Bool
  /-- Every name on the way is asked for by its whole path from the root. -/
  spelled : Bool
deriving DecidableEq, Repr

namespace Manner

/-- To the thing itself, which has to be a directory if slashes follow. -/
def toTarget : Manner := ⟨true, false, false⟩

/-- To the entry, unless slashes follow. -/
def toEntry : Manner := ⟨false, false, false⟩

/-- To the file that is to be opened or made. -/
def toOpen : Manner := ⟨true, true, false⟩

/-- To the entry that is to be made or replaced. -/
def toReplace : Manner := ⟨false, true, false⟩

/-- To the thing itself, by a path that holds no link. -/
def toCanonical : Manner := ⟨true, false, true⟩

/-- Whether a name is the last one when these steps remain, and if so, whether slashes follow. -/
def lastName? (m : Manner) : List Step → Option Bool
  | [] => some false
  | [.slash] => if m.keepSlash then some true else none
  | _ => none

/-- Whether a name in a directory can be asked for, as far as lengths go. -/
def admits (m : Manner) (dir : Location) (name : String) : Bool :=
  name.utf8ByteSize ≤ maxNameLength &&
    (!m.spelled || (Path.ofLocation (name :: dir)).byteLength ≤ maxPathLength)

end Manner

/-- Where a link's target or a path begins, for a walk that stands at `loc`. -/
def origin (loc : Location) (p : Path) : Location :=
  if p.isAbsolute then [] else loc

/-- Walks the steps from a directory; `links` more links may be followed. -/
def walk (d : Disk) (m : Manner) (links : Nat) (loc : Location) (steps : List Step) :
    Except SystemError Slot :=
  match steps with
  | [] => .ok (.directory loc)
  | .here :: rest | .slash :: rest => walk d m links loc rest
  | .up :: rest => walk d m links loc.tail rest
  | .down name :: rest =>
    match m.lastName? rest with
    -- The operation judges the slashes, so what stands at the name does not matter here.
    | some true => .ok (.name loc name true)
    | last =>
      if !m.admits loc name then .error .nameTooLong
      else
        match d.get? (name :: loc) with
        | some (.link target) =>
          if last.isSome && !m.follow then .ok (.name loc name false)
          else
            match links with
            | 0 => .error .linkLoop
            -- The target's steps take the place of the name.
            | links + 1 => walk d m links (origin loc target) (target.steps ++ rest)
        | e =>
          if last.isSome then .ok (.name loc name false)
          else
            match e with
            | some (.directory _) => walk d m links (name :: loc) rest
            | some _ => .error .notADirectory
            | none => .error .notFound
termination_by (links, steps.length)

/-! ## Resolving a path -/

/-- What the kernel asks of a path's text before it walks. -/
def checkText (p : Path) : Except SystemError Unit :=
  if p.hasNul then .error .nulInPath
  else if p.isEmpty then .error .notFound
  else if maxPathLength < p.byteLength then .error .nameTooLong
  else .ok ()

/-- Where a path leads. -/
def resolve (d : Disk) (m : Manner) (p : Path) : Except SystemError Slot := do
  checkText p
  d.walk m maxLinks (origin d.cwd p) p.steps

/-- The location of something that exists, and its entry. -/
def occupied (d : Disk) : Slot → Except SystemError (Location × Entry)
  | .directory loc => .ok (loc, (d.get? loc).getD .newDirectory)
  | .name dir name _ =>
    match d.get? (name :: dir) with
    | some e => .ok (name :: dir, e)
    | none => .error .notFound

/-- What a path leads to, links followed, whatever the length of its text. -/
def leadsTo (d : Disk) (p : Path) : Except SystemError (Location × Entry) := do
  d.occupied (← d.walk .toTarget maxLinks (origin d.cwd p) p.steps)

/-- What a path leads to, as the kernel finds it. -/
def find (d : Disk) (p : Path) : Except SystemError (Location × Entry) := do
  checkText p
  d.leadsTo p

/-- Whether a path names a link. -/
def isLink (d : Disk) (p : Path) : Bool :=
  match d.resolve .toEntry p >>= d.occupied with
  | .ok (_, .link _) => true
  | _ => false

/-- The location that a path leads to, with every link followed.  The text of the path may have any
length, but the path of a location on the way may not, nor that of the answer. -/
def canonical (d : Disk) (p : Path) : Except SystemError (Location × Entry) :=
  if p.hasNul then .error .nulInPath
  else if p.isEmpty then .error .notFound
  else do
    let slot ← d.walk .toCanonical maxLinks (origin d.cwd p) p.steps
    let (loc, e) ← d.occupied slot
    if maxPathLength < (Path.ofLocation loc).byteLength then throw .nameTooLong
    else return (loc, e)

end TtyGuard.Disk
