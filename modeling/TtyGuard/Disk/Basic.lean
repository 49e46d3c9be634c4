/-
# TtyGuard.Disk.Basic — a tree of directories, files, links and devices

A disk lists what stands at each location.  A location is the chain of names that leads to it from
the root, the last name first, so that the directory around it is the tail.  The names of one file
with several names carry the same number.  Main statements: what `insert` does to `get?`, and
`erase_insert`, which says that something new can be taken away without a trace.

Entries have permissions, but nothing is refused on account of them here: a disk is used as by
someone who may do everything.
-/
import TtyGuard.Output
import TtyGuard.Path

namespace TtyGuard

/-! ## Entries -/

/-- The names from an entry up to the root. -/
abbrev Location := List String

/-- The path of a location from the root. -/
def Path.ofLocation (loc : Location) : Path :=
  if loc.isEmpty then ⟨"", [""]⟩ else ⟨"", loc.reverse⟩

/-- A device, by what becomes of the bytes written to it. -/
inductive Device where
  /-- They are dropped. -/
  | sink
  /-- There is never room for any. -/
  | full
  /-- They appear in the output. -/
  | stream (s : Stream)
deriving DecidableEq, Repr

/-- What can stand at a location. -/
inductive Entry where
  | directory (mode : Nat)
  /-- One of the names of the file with this number. -/
  | file (number : Nat) (mode : Nat) (bytes : List UInt8)
  | link (target : Path)
  | device (d : Device)
deriving DecidableEq, Repr

namespace Entry

/-- A directory that everyone may enter and read. -/
def newDirectory : Entry := directory 0o755

/-- The number of the file, if it is one. -/
def number? : Entry → Option Nat
  | file number .. => some number
  | _ => none

/-- The entry with other permissions, where it has any. -/
def withMode (mode : Nat) : Entry → Entry
  | directory _ => directory mode
  | file number _ bytes => file number mode bytes
  | e => e

/-- The file with other contents. -/
def withBytes (bytes : List UInt8) : Entry → Entry
  | file number mode _ => file number mode bytes
  | e => e

/-- The file with the bytes written over its contents from their start: what lies behind them
stays. -/
def withStart (bytes : List UInt8) : Entry → Entry
  | file number mode old => file number mode (bytes ++ old.drop bytes.length)
  | e => e

end Entry

/-- Everything below the root, the directory where relative paths begin, and the permissions that no
new entry gets. -/
structure Disk where
  cwd : Location
  umask : Nat
  entries : List (Location × Entry)
deriving DecidableEq, Repr

namespace Disk

/-! ## Looking and changing -/

/-- What stands at a location; the root is always a directory. -/
def get? (d : Disk) (loc : Location) : Option Entry :=
  if loc.isEmpty then some .newDirectory else d.entries.lookup loc

/-- Takes away what stands at a location. -/
def erase (d : Disk) (loc : Location) : Disk :=
  { d with entries := d.entries.filter (·.1 != loc) }

/-- Puts an entry at a location, in the place of what stands there. -/
def insert (d : Disk) (loc : Location) (e : Entry) : Disk :=
  { d with entries := (loc, e) :: (d.erase loc).entries }

/-- The permissions that a new entry gets of those that are asked for. -/
def granted (d : Disk) (permissions : Nat) : Nat := permissions ^^^ (permissions &&& d.umask)

/-- A number that no file has. -/
def freshNumber (d : Disk) : Nat :=
  d.entries.foldl (fun n (_, e) => max n (e.number?.elim 0 (· + 1))) 0

/-- Changes a file under all of its names. -/
def changeFile (d : Disk) (number : Nat) (change : Entry → Entry) : Disk :=
  { d with
    entries := d.entries.map fun (loc, e) =>
      (loc, if e.number? = some number then change e else e) }

theorem lookup_filter_ne {α β : Type} [BEq α] [LawfulBEq α] (l : List (α × β)) {a b : α}
    (h : a ≠ b) : (l.filter (·.1 != b)).lookup a = l.lookup a := by
  induction l with
  | nil => rfl
  | cons x l ih =>
    obtain ⟨k, v⟩ := x
    by_cases hk : k = b
    · have hne : (a == k) = false := by simpa [hk] using h
      rw [List.lookup_cons, hne, ← ih]
      simp [hk]
    · have hkeep : (k != b) = true := by simpa using hk
      rw [List.filter_cons, if_pos hkeep, List.lookup_cons, List.lookup_cons, ih]

theorem filter_ne_eq_self {α β : Type} [BEq α] [LawfulBEq α] {l : List (α × β)} {a : α}
    (h : l.lookup a = none) : l.filter (·.1 != a) = l := by
  rw [List.filter_eq_self]
  intro x hx
  have := (List.lookup_eq_none_iff.mp h) x hx
  simpa [bne, BEq.comm] using this

theorem get?_insert_self (d : Disk) {loc : Location} (e : Entry) (h : loc ≠ []) :
    (d.insert loc e).get? loc = some e := by
  simp [get?, insert, h]

theorem get?_insert_of_ne (d : Disk) {loc other : Location} (e : Entry) (h : other ≠ loc) :
    (d.insert loc e).get? other = d.get? other := by
  have hne : (other == loc) = false := by simpa using h
  simp only [get?, insert, erase, List.lookup_cons, hne]
  rw [lookup_filter_ne _ h]

/-- What was put where nothing stood can be taken away without a trace. -/
theorem erase_insert (d : Disk) {loc : Location} (e : Entry) (h : d.get? loc = none) :
    (d.insert loc e).erase loc = d := by
  have hloc : d.entries.lookup loc = none := by
    unfold get? at h
    split at h
    · exact absurd h (by simp)
    · exact h
  have hkeep := filter_ne_eq_self hloc
  cases d
  simp only [insert, erase, List.filter_cons, bne_self_eq_false] at hkeep ⊢
  simp [hkeep]

end Disk

end TtyGuard
