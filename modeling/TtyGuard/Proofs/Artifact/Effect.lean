/-
# TtyGuard.Proofs.Artifact.Effect — what a write that succeeds has done

A write should put a new file at the one location that the path leads to, and touch nothing else:
`PutsOnly`.  `write_ok_cases` says what it does instead in one case.  A link to a file whose own path
from the root is longer than the kernel takes has no canonical path, and then the file is written in
place: it keeps its permissions, and its other names show the new bytes.  `write_ok_puts_only_iff`
says that this is the only way to miss `PutsOnly` where no directory is closed to the user, and
`write_ok_changes_other_name` is a disk on which it happens.  A link through a closed directory lacks
a canonical path as well; `Disk.canonical` does not know of closed directories.

The permissions of the new file are those that are left by the usual mask, which takes the right to
write from everyone but the owner: the two ways of making a file ask for different ones.

The walks are compared by what they go through, not by their texts: the staged file is no way for a
walk (`sameWays_insert`), so the slot that the operations found is the slot that the path leads to
afterwards.
-/
import TtyGuard.Proofs.Artifact.Failure
import TtyGuard.Proofs.Disk.Tree

namespace TtyGuard.Artifact

open Disk (Manner Reaches SameWays maxLinks origin)

variable {o : Hindrance} {d after : Disk} {draws : List String} {p target : Path}
  {name : String} {bytes : List UInt8} {loc dir : Location} {number permissions : Nat} {e : Entry}

/-! ## The intended effect -/

theorem granted_staged (hmask : d.umask = 0o022) : d.granted stagedPermissions = 0o644 := by
  rw [Disk.granted, hmask]
  rfl

theorem granted_opened (hmask : d.umask = 0o022) : d.granted Disk.openedPermissions = 0o644 := by
  rw [Disk.granted, hmask]
  rfl

/-- The path leads to a file at `loc` that holds the bytes and has the permissions of a new file;
before, a file stood there or nothing.  Everything else is as it was. -/
structure PutsOnly (d after : Disk) (p : Path) (bytes : List UInt8) (loc : Location) : Prop where
  leadsTo : ∃ number, after.leadsTo p = .ok (loc, .file number 0o644 bytes)
  instead : d.get? loc = none ∨ ∃ number mode old, d.get? loc = some (.file number mode old)
  others : ∀ other, other ≠ loc → after.get? other = d.get? other
  cwd : after.cwd = d.cwd
  umask : after.umask = d.umask

/-- The path names a link to something that exists but whose path from the root is too long. -/
structure FarLink (d : Disk) (p : Path) (loc : Location) (e : Entry) : Prop where
  isLink : d.isLink p = true
  canonical : d.canonical p = .error .nameTooLong
  leadsTo : d.leadsTo p = .ok (loc, e)

/-- Where a path leads that leads neither to a directory nor to a device, a file stands or nothing
yet. -/
theorem free_or_file
    (hslot : Reaches d .toTarget maxLinks (origin d.cwd p) p.steps (.name dir name false))
    (hdirectory : ¬ d.IsDirectory (name :: dir))
    (hdevice : ∀ loc dev, d.leadsTo p ≠ .ok (loc, .device dev)) :
    d.get? (name :: dir) = none ∨
      ∃ number mode old, d.get? (name :: dir) = some (.file number mode old) := by
  cases hget : d.get? (name :: dir) with
  | none => exact .inl rfl
  | some e =>
    cases e with
    | file number mode old => exact .inr ⟨number, mode, old, rfl⟩
    | directory mode => exact absurd ⟨mode, hget⟩ hdirectory
    | link target => exact absurd hget (hslot.get?_ne_link rfl target)
    | device dev =>
      have hleads : d.leadsTo p = .ok (name :: dir, .device dev) :=
        (Disk.leadsTo_eq_ok_iff hslot).mpr ⟨rfl, hget⟩
      exact absurd hleads (hdevice (name :: dir) dev)

/-- A new file where the path led has the intended effect. -/
theorem putsOnly_insert
    (hslot : Reaches d .toTarget maxLinks (origin d.cwd p) p.steps (.name dir name false))
    (hdirectory : ¬ d.IsDirectory (name :: dir))
    (hdevice : ∀ loc dev, d.leadsTo p ≠ .ok (loc, .device dev))
    (hgranted : d.granted permissions = 0o644) :
    PutsOnly d (d.insert (name :: dir) (d.newFile permissions bytes)) p bytes (name :: dir) := by
  have hloc : name :: dir ≠ [] := List.cons_ne_nil name dir
  have hinstead := free_or_file hslot hdirectory hdevice
  have hways : SameWays d (d.insert (name :: dir) (d.newFile permissions bytes)) :=
    Disk.sameWays_insert hloc (hslot.leadsOn_eq_none rfl hdirectory) rfl
  -- The new file is no way for a walk, so the path still leads to this slot.
  have hleads : (d.insert (name :: dir) (d.newFile permissions bytes)).leadsTo p =
      .ok (name :: dir, .file d.freshNumber 0o644 bytes) := by
    rw [← hgranted]
    exact (Disk.leadsTo_eq_ok_iff (hslot.congr hways)).mpr ⟨rfl, Disk.get?_insert_self d _ hloc⟩
  exact ⟨⟨d.freshNumber, hleads⟩, hinstead, fun _ hne => Disk.get?_insert_of_ne d _ hne, rfl, rfl⟩

/-! ## Replacing -/

/-- A replacement that succeeds has put a new file at the slot to which the target led. -/
theorem replace_eq_ok (h : (replace o d draws p target bytes).result = .ok ()) :
    ∃ dir name, Disk.checkText target = .ok () ∧
      Reaches d .toReplace maxLinks (origin d.cwd target) target.steps (.name dir name false) ∧
      ¬ d.IsDirectory (name :: dir) ∧
      (replace o d draws p target bytes).disk =
        d.insert (name :: dir) (d.newFile stagedPermissions bytes) := by
  obtain ⟨e, he, -⟩ | ⟨-, -, loc, hloc, hfree, hmoved⟩ := replace_cases o d draws p target bytes
  · cases he.symm.trans h
  have hways : SameWays d (d.insert loc (d.newFile stagedPermissions bytes)) :=
    Disk.sameWays_insert_of_none hloc hfree rfl
  obtain ⟨dir, name, e, hslot, hsource, htarget, hafter⟩ := Disk.moveFile_eq_ok hmoved
  obtain ⟨htext, hreach⟩ := Disk.resolve_eq_ok hslot
  refine ⟨dir, name, htext, hreach.congr hways.symm, ?_, ?_⟩
  · rintro ⟨mode, hmode⟩
    exact htarget mode ((hways.get?_eq_some rfl).mp hmode)
  · rw [Disk.get?_insert_self d _ hloc] at hsource
    cases hsource
    rw [hafter, Disk.erase_insert d _ hfree]

/-- A replacement of what the path leads to puts the new file there. -/
theorem slot_of_replace_canonical (hd : d.WellFormed) (hcanonical : d.canonical p = .ok (loc, e))
    (h : (replace o d draws p (.ofLocation loc) bytes).result = .ok ()) :
    ∃ dir name, loc = name :: dir ∧
      Reaches d .toTarget maxLinks (origin d.cwd p) p.steps (.name dir name false) ∧
      ¬ d.IsDirectory (name :: dir) ∧
      (replace o d draws p (.ofLocation loc) bytes).disk =
        d.insert (name :: dir) (d.newFile stagedPermissions bytes) := by
  obtain ⟨⟨slot, hslot, hfound⟩, -⟩ := Disk.canonical_eq_ok hcanonical
  have hget : d.get? loc = some e := hslot.get?_of_occupied hd hfound
  obtain ⟨dir, name, -, hreach, hdirectory, hafter⟩ := replace_eq_ok h
  cases loc with
  | nil => cases hreach
  | cons name' dir' =>
    -- The way down to what the path leads to has no link on it, so the target is that location.
    cases hreach.slot_of_ofLocation hd hget rfl
    cases slot with
    | directory here =>
      cases hfound
      exact absurd (hslot.isDirectory_around hd (hd.cwd.origin p)) hdirectory
    | name dir'' name'' slash =>
      obtain ⟨hsame, -⟩ := Disk.occupied_name_eq_ok_iff.mp hfound
      cases hsame
      cases hslot.slash_eq_false rfl
      exact ⟨_, _, rfl, hslot.toTarget rfl nofun, hdirectory, hafter⟩

/-- Without a link at its end, a path is replaced where it leads. -/
theorem slot_of_replace_self (hlink : d.isLink p = false)
    (h : (replace o d draws p p bytes).result = .ok ()) :
    ∃ dir name, Disk.checkText p = .ok () ∧
      Reaches d .toTarget maxLinks (origin d.cwd p) p.steps (.name dir name false) ∧
      ¬ d.IsDirectory (name :: dir) ∧
      (replace o d draws p p bytes).disk =
        d.insert (name :: dir) (d.newFile stagedPermissions bytes) := by
  obtain ⟨dir, name, htext, hreach, hdirectory, hafter⟩ := replace_eq_ok h
  have hentry : Reaches d .toEntry maxLinks (origin d.cwd p) p.steps (.name dir name false) :=
    hreach.of_manner nofun nofun nofun nofun nofun
  -- Without a link at the slot it does not matter whether links there are followed.
  have hnolink : ∀ target, d.get? (name :: dir) ≠ some (.link target) := by
    intro target hget
    exact Bool.false_ne_true (hlink.symm.trans (Disk.isLink_of_reaches htext hentry hget))
  refine ⟨dir, name, htext, hreach.of_manner nofun nofun nofun nofun ?_, hdirectory, hafter⟩
  rintro - _ _ ⟨⟩
  exact hnolink

/-- A replacement of what the path leads to has the intended effect. -/
theorem putsOnly_replace_canonical (hd : d.WellFormed) (hmask : d.umask = 0o022)
    (hcanonical : d.canonical p = .ok (loc, e))
    (hdevice : ∀ loc dev, d.leadsTo p ≠ .ok (loc, .device dev))
    (h : (replace o d draws p (.ofLocation loc) bytes).result = .ok ()) :
    PutsOnly d (replace o d draws p (.ofLocation loc) bytes).disk p bytes loc := by
  obtain ⟨dir, name, hloc, hslot, hdirectory, hafter⟩ := slot_of_replace_canonical hd hcanonical h
  rw [hafter, hloc]
  exact putsOnly_insert hslot hdirectory hdevice (granted_staged hmask)

theorem putsOnly_replace_self (hmask : d.umask = 0o022) (hlink : d.isLink p = false)
    (hdevice : ∀ loc dev, d.leadsTo p ≠ .ok (loc, .device dev))
    (h : (replace o d draws p p bytes).result = .ok ()) :
    ∃ loc, PutsOnly d (replace o d draws p p bytes).disk p bytes loc := by
  obtain ⟨dir, name, -, hslot, hdirectory, hafter⟩ := slot_of_replace_self hlink h
  rw [hafter]
  exact ⟨name :: dir, putsOnly_insert hslot hdirectory hdevice (granted_staged hmask)⟩

/-! ## Writing in place -/

/-- Behind a link without a canonical path a file is made, which has the intended effect, or the
link is a far one and the file there is rewritten. -/
theorem writeInPlace_ok_cases {cause : SystemError} (hmask : d.umask = 0o022)
    (hlink : d.isLink p = true) (hcanonical : d.canonical p = .error cause)
    (hdevice : ∀ loc dev, d.leadsTo p ≠ .ok (loc, .device dev))
    (h : (writeInPlace o d p bytes).result = .ok ()) :
    (∃ loc, PutsOnly d (writeInPlace o d p bytes).disk p bytes loc) ∧
        (∀ loc e, ¬ FarLink d p loc e) ∨
      ∃ loc number mode old, FarLink d p loc (.file number mode old) ∧
        (writeInPlace o d p bytes).disk = d.changeFile number (Entry.withBytes bytes) := by
  obtain ⟨e, he, -⟩ | ⟨-, -, handle, opened, hopen, hwritten⟩ := writeInPlace_cases o d p bytes
  · cases he.symm.trans h
  obtain ⟨dir, name, hresolved, hentry⟩ := Disk.openEmptied_eq_ok hopen
  obtain ⟨htext, hreach⟩ := Disk.resolve_eq_ok hresolved
  have hslot := hreach.toTarget rfl (by rintro _ _ ⟨⟩)
  rcases hentry with ⟨number, mode, old, hget, rfl, rfl⟩ | ⟨dev, hget, -, -⟩ | ⟨hget, rfl, rfl⟩
  · have hfile : d.leadsTo p = .ok (name :: dir, .file number mode old) :=
      (Disk.leadsTo_eq_ok_iff hslot).mpr ⟨rfl, hget⟩
    cases Disk.canonical_eq_error htext hfile hcanonical
    refine .inr ⟨_, number, mode, old, ⟨hlink, hcanonical, hfile⟩, ?_⟩
    have hafter : (d.changeFile number (Entry.withBytes [])).changeFile number
        (Entry.withStart bytes) = (writeInPlace o d p bytes).disk := Except.ok.inj hwritten
    rw [← hafter, Disk.write_emptied]
  · exact absurd ((Disk.leadsTo_eq_ok_iff hslot).mpr ⟨rfl, hget⟩) (hdevice (name :: dir) dev)
  · -- What is made here is a new file as after a replacement.
    have hafter : (d.insert (name :: dir) (d.newFile Disk.openedPermissions [])).changeFile
        d.freshNumber (Entry.withStart bytes) = (writeInPlace o d p bytes).disk :=
      Except.ok.inj hwritten
    rw [← hafter, Disk.write_insert_newFile]
    have hdirectory := Disk.not_isDirectory_of_none hget
    refine .inl ⟨⟨_, putsOnly_insert hslot hdirectory hdevice (granted_opened hmask)⟩,
      fun loc e hfar => ?_⟩
    obtain ⟨-, hentry⟩ := (Disk.leadsTo_eq_ok_iff hslot).mp hfar.leadsTo
    cases hget.symm.trans hentry

/-- A path that leads to a file leads there still when the file has been rewritten. -/
theorem leadsTo_changeFile {mode : Nat} {old : List UInt8} (bytes : List UInt8) (hd : d.WellFormed)
    (h : d.leadsTo p = .ok (loc, .file number mode old)) :
    d.get? loc = some (.file number mode old) ∧
      (d.changeFile number (Entry.withBytes bytes)).leadsTo p =
        .ok (loc, .file number mode bytes) := by
  obtain ⟨slot, hslot, hfound⟩ := Disk.leadsTo_eq_ok h
  have hget : d.get? loc = some (.file number mode old) := hslot.get?_of_occupied hd hfound
  refine ⟨hget, ?_⟩
  rw [Disk.leadsTo_of_reaches (hslot.congr (d.sameWays_changeFile number bytes))]
  cases slot with
  | directory here =>
    obtain ⟨mode, hmode⟩ := hslot.isDirectory_around hd (hd.cwd.origin p)
    obtain ⟨rfl, -⟩ := Prod.mk.inj (Except.ok.inj hfound)
    cases hget.symm.trans hmode
  | name dir name slash =>
    obtain ⟨rfl, -⟩ := Disk.occupied_name_eq_ok_iff.mp hfound
    refine Disk.occupied_name_eq_ok_iff.mpr ⟨rfl, ?_⟩
    rw [Disk.get?_changeFile, hget]
    simp [Entry.number?, Entry.withBytes]

/-- Rewriting a file has the intended effect if the permissions are those of a new file and no other
name of the file shows new bytes. -/
theorem putsOnly_changeFile_iff {mode : Nat} {old : List UInt8} (hd : d.WellFormed)
    (h : d.leadsTo p = .ok (loc, .file number mode old)) :
    (∃ loc, PutsOnly d (d.changeFile number (Entry.withBytes bytes)) p bytes loc) ↔
      mode = 0o644 ∧ ∀ other mode' old', other ≠ loc →
        d.get? other = some (.file number mode' old') → old' = bytes := by
  obtain ⟨hget, hleads⟩ := leadsTo_changeFile bytes hd h
  constructor
  · rintro ⟨loc', ⟨number', hputs⟩, -, hothers, -⟩
    cases hleads.symm.trans hputs
    refine ⟨rfl, fun other mode' old' hne hother => ?_⟩
    have hsame := hothers other hne
    rw [Disk.get?_changeFile, hother] at hsame
    simpa [Entry.number?, Entry.withBytes, eq_comm] using hsame
  · rintro ⟨rfl, hnames⟩
    refine ⟨loc, ⟨number, hleads⟩, .inr ⟨number, 0o644, old, hget⟩, fun other hne => ?_, rfl, rfl⟩
    rw [Disk.get?_changeFile]
    cases hother : d.get? other with
    | none => rfl
    | some e =>
      cases e with
      | file n mode' old' =>
        by_cases hn : n = number
        · subst hn
          simp [Entry.number?, Entry.withBytes, hnames other mode' old' hne hother]
        · simp [Entry.number?, hn]
      | directory mode => rfl
      | link target => rfl
      | device dev => rfl

/-! ## The effect -/

/-- A write that succeeds and did not go to a device has the intended effect, or has rewritten the
file behind a far link. -/
theorem write_ok_cases (hd : d.WellFormed) (hmask : d.umask = 0o022)
    (hok : (write o d draws p bytes).result = .ok ())
    (hdevice : ∀ loc dev, d.leadsTo p ≠ .ok (loc, .device dev)) :
    (∃ loc, PutsOnly d (write o d draws p bytes).disk p bytes loc) ∧
        (∀ loc e, ¬ FarLink d p loc e) ∨
      ∃ loc number mode old, FarLink d p loc (.file number mode old) ∧
        (write o d draws p bytes).disk = d.changeFile number (Entry.withBytes bytes) := by
  unfold write destination at hok ⊢
  cases hcanonical : d.canonical p with
  | error cause =>
    -- The only way into a file that exists: a link without a canonical path.
    cases hlink : d.isLink p with
    | true =>
      rw [hcanonical, hlink] at hok
      exact writeInPlace_ok_cases hmask hlink hcanonical hdevice hok
    | false =>
      rw [hcanonical, hlink] at hok
      refine .inl ⟨putsOnly_replace_self hmask hlink hdevice hok, fun loc e hfar => ?_⟩
      exact Bool.false_ne_true (hlink.symm.trans hfar.isLink)
  | ok found =>
    obtain ⟨loc, e⟩ := found
    rw [hcanonical] at hok
    have hnotfar : ∀ loc e, ¬ FarLink d p loc e := fun loc e hfar =>
      nomatch hcanonical.symm.trans hfar.canonical
    cases e with
    | device dev => exact absurd (Disk.leadsTo_of_canonical hcanonical) (hdevice loc dev)
    | _ => exact .inl ⟨⟨loc, putsOnly_replace_canonical hd hmask hcanonical hdevice hok⟩, hnotfar⟩

/-- Under the usual mask, a write that succeeds and did not go to a device has the intended effect,
unless the path is a far link to a file with other permissions or to one that has another name and
other bytes. -/
theorem write_ok_puts_only_iff (o : Hindrance) (d : Disk) (draws : List String) (p : Path)
    (bytes : List UInt8) (hd : d.WellFormed) (hmask : d.umask = 0o022)
    (hok : (write o d draws p bytes).result = .ok ())
    (hdevice : ∀ loc dev, d.leadsTo p ≠ .ok (loc, .device dev)) :
    (∃ loc, PutsOnly d (write o d draws p bytes).disk p bytes loc) ↔
      ∀ loc number mode old, FarLink d p loc (.file number mode old) →
        mode = 0o644 ∧ ∀ other mode' old', other ≠ loc →
          d.get? other = some (.file number mode' old') → old' = bytes := by
  rcases write_ok_cases hd hmask hok hdevice with
    ⟨hputs, hnotfar⟩ | ⟨loc, number, mode, old, hfar, hafter⟩
  · exact iff_of_true hputs fun loc number mode old hfar => absurd hfar (hnotfar loc _)
  · rw [hafter, putsOnly_changeFile_iff hd hfar.leadsTo]
    constructor
    · intro hsame loc' number' mode' old' hfar'
      cases hfar.leadsTo.symm.trans hfar'.leadsTo
      exact hsame
    · intro hall
      exact hall loc number mode old hfar

/-- A link that leads nowhere yet: its target is made, and the link stays. -/
theorem write_ok_puts_only_iff_dangling :
    let d : Disk := ⟨["w"], 0o022, [(["w"], .newDirectory), (["l", "w"], .link (.ofText "f"))]⟩
    d.WellFormed ∧ d.umask = 0o022 ∧ (write {} d [] (.ofText "l") [6]).result = .ok () ∧
      (∀ loc dev, d.leadsTo (.ofText "l") ≠ .ok (loc, .device dev)) ∧
      ∃ loc, PutsOnly d (write {} d [] (.ofText "l") [6]).disk (.ofText "l") [6] loc := by
  intro d
  have hd : d.WellFormed := by decide
  have hleads : d.leadsTo (.ofText "l") = .error .notFound := by cbv
  have hdestination : destination d (.ofText "l") = .inPlace := by cbv
  have hopened : d.openEmptied (.ofText "l") =
      .ok (.file d.freshNumber, d.insert ["f", "w"] (d.newFile Disk.openedPermissions [])) := by cbv
  have hok : (write {} d [] (.ofText "l") [6]).result = .ok () := by
    simp only [write, hdestination, writeInPlace, attempt, Option.elim_none, hopened, Disk.writeAll]
  have hdevice : ∀ loc dev, d.leadsTo (.ofText "l") ≠ .ok (loc, .device dev) := by
    rw [hleads]
    rintro _ _ ⟨⟩
  refine ⟨hd, rfl, hok, hdevice, (write_ok_puts_only_iff {} d [] _ [6] hd rfl hok hdevice).mpr ?_⟩
  intro loc number mode old hfar
  cases hleads.symm.trans hfar.leadsTo

/-! ## A far link -/

/-- A name of the greatest length. -/
@[irreducible] def longName : String := .ofList (List.replicate 255 'a')

/-- The location of the directory at a depth. -/
def farDirectory (depth : Nat) : Location := List.replicate depth longName

/-- Sixteen directories, each in the one before, and a file `f` in the last of them, whose path from
the root is too long.  Eight directories down, where paths begin, `b` is another name of the file
and `l` a link to it. -/
def farDisk : Disk where
  cwd := farDirectory 8
  umask := 0o022
  entries :=
    ("f" :: farDirectory 16, .file 0 0o644 [1]) ::
    ("b" :: farDirectory 8, .file 0 0o644 [1]) ::
    ("l" :: farDirectory 8, .link ⟨longName, List.replicate 7 longName ++ ["f"]⟩) ::
    (List.range 16).map fun depth => (farDirectory (depth + 1), .newDirectory)

theorem utf8ByteSize_longName : longName.utf8ByteSize = 255 := by decide +kernel

theorem longName_ne (h : name.utf8ByteSize ≠ 255) : name ≠ longName := by
  rintro rfl
  exact h utf8ByteSize_longName

theorem lookup_farDirectory (depths : List Nat) {depth : Nat} (h : depth ∈ depths) :
    (depths.map fun depth => (farDirectory (depth + 1), Entry.newDirectory)).lookup
      (farDirectory (depth + 1)) = some .newDirectory := by
  induction depths with
  | nil => cases h
  | cons first depths ih =>
    rw [List.map_cons, List.lookup_cons]
    split
    · rfl
    · next hne =>
      refine ih ((List.mem_cons.mp h).resolve_left ?_)
      rintro rfl
      simp at hne

theorem get?_farDirectory {depth : Nat} (h : depth ≤ 16) :
    farDisk.get? (farDirectory depth) = some .newDirectory := by
  cases depth with
  | zero => rfl
  | succ depth =>
    have hother : ∀ {name dir}, name ≠ longName →
        (farDirectory (depth + 1) == name :: dir) = false := by
      intro name dir hname
      simpa [farDirectory, List.replicate_succ] using fun heq => absurd heq.symm hname
    show farDisk.entries.lookup _ = _
    unfold farDisk
    rw [List.lookup_cons, hother (longName_ne (by decide)), List.lookup_cons,
      hother (longName_ne (by decide)), List.lookup_cons, hother (longName_ne (by decide))]
    exact lookup_farDirectory _ (List.mem_range.mpr h)

/-- Down through the directories of that disk. -/
theorem reaches_farDirectory {m : Manner} (hspelled : m.spelled = false) {links depth n : Nat}
    {slot : Disk.Slot} (hdepth : depth + n ≤ 16)
    (h : Reaches farDisk m links (farDirectory (depth + n)) [.down "f"] slot) :
    Reaches farDisk m links (farDirectory depth)
      (List.replicate n (.down longName) ++ [.down "f"]) slot := by
  induction n generalizing depth with
  | zero => exact h
  | succ n ih =>
    have hlong : m.admits (farDirectory depth) longName = true := by
      simp [Manner.admits, hspelled, utf8ByteSize_longName, Disk.maxNameLength]
    have hlast : m.lastName? (List.replicate n (.down longName) ++ [.down "f"]) = none := by
      cases n with
      | zero => rfl
      | succ n => rfl
    have hnext : Reaches farDisk m links (farDirectory (depth + 1))
        (List.replicate n (.down longName) ++ [.down "f"]) slot := by
      refine ih (by omega) ?_
      rwa [Nat.add_right_comm]
    rw [List.replicate_succ, List.cons_append]
    exact .enter hlast hlong (get?_farDirectory (by omega : depth + 1 ≤ 16)) hnext

theorem get?_far_file : farDisk.get? ("f" :: farDirectory 16) = some (.file 0 0o644 [1]) := by
  simp [Disk.get?, farDisk]

theorem get?_far_other_name : farDisk.get? ("b" :: farDirectory 8) = some (.file 0 0o644 [1]) := by
  simp [Disk.get?, farDisk, List.lookup_cons]

theorem get?_far_link : farDisk.get? ("l" :: farDirectory 8) =
    some (.link ⟨longName, List.replicate 7 longName ++ ["f"]⟩) := by
  simp [Disk.get?, farDisk, List.lookup_cons]

/-- The link leads to the file. -/
theorem reaches_far {m : Manner} (hfollow : m.follow = true) (hspelled : m.spelled = false) :
    Reaches farDisk m maxLinks (farDirectory 8) [.down "l"]
      (.name (farDirectory 16) "f" false) := by
  have hadmits : ∀ {dir name}, name.utf8ByteSize = 1 → m.admits dir name = true := by
    intro dir name hsize
    simp [Manner.admits, hspelled, hsize, Disk.maxNameLength]
  have hsteps : (⟨longName, List.replicate 7 longName ++ ["f"]⟩ : Path).steps =
      List.replicate 8 (.down longName) ++ [.down "f"] := by decide +kernel
  have horigin : origin (farDirectory 8) ⟨longName, List.replicate 7 longName ++ ["f"]⟩ =
      farDirectory 8 := if_neg (by decide +kernel)
  refine .follow (by rintro ⟨⟩) (hadmits rfl) get?_far_link (fun _ => hfollow) ?_
  rw [hsteps, horigin, List.append_nil]
  refine reaches_farDirectory hspelled (Nat.le_refl 16) (.stop rfl (hadmits rfl) ?_)
  intro _ target
  rw [get?_far_file]
  rintro ⟨⟩

theorem wellFormed_farDisk : farDisk.WellFormed where
  cwd := ⟨_, get?_farDirectory (by decide)⟩
  around := by
    intro x hx
    rcases List.mem_cons.mp hx with rfl | hx
    · exact ⟨_, get?_farDirectory (Nat.le_refl 16)⟩
    rcases List.mem_cons.mp hx with rfl | hx
    · exact ⟨_, get?_farDirectory (by decide : 8 ≤ 16)⟩
    rcases List.mem_cons.mp hx with rfl | hx
    · exact ⟨_, get?_farDirectory (by decide : 8 ≤ 16)⟩
    obtain ⟨depth, hdepth, rfl⟩ := List.mem_map.mp hx
    exact ⟨_, get?_farDirectory (Nat.le_of_lt (List.mem_range.mp hdepth))⟩
  named := by
    have hlong : IsName longName :=
      ⟨(longName_ne (by decide)).symm, (longName_ne (by decide)).symm, (longName_ne (by decide)).symm⟩
    have hdirectory : ∀ {depth}, ∀ name ∈ farDirectory depth, IsName name := fun _ hname =>
      List.eq_of_mem_replicate hname ▸ hlong
    have hentry : ∀ {first depth}, IsName first → ∀ name ∈ first :: farDirectory depth, IsName name :=
      fun hfirst => List.forall_mem_cons.mpr ⟨hfirst, hdirectory⟩
    intro x hx
    rcases List.mem_cons.mp hx with rfl | hx
    · exact hentry (by decide)
    rcases List.mem_cons.mp hx with rfl | hx
    · exact hentry (by decide)
    rcases List.mem_cons.mp hx with rfl | hx
    · exact hentry (by decide)
    obtain ⟨depth, -, rfl⟩ := List.mem_map.mp hx
    exact hdirectory

theorem leadsTo_far :
    farDisk.leadsTo (.ofText "l") = .ok ("f" :: farDirectory 16, .file 0 0o644 [1]) :=
  (Disk.leadsTo_eq_ok_iff (reaches_far rfl rfl)).mpr ⟨rfl, get?_far_file⟩

/-- The link is a far one. -/
theorem farLink_far :
    FarLink farDisk (.ofText "l") ("f" :: farDirectory 16) (.file 0 0o644 [1]) where
  isLink := Disk.isLink_of_reaches rfl (.stop rfl rfl nofun) get?_far_link
  canonical := Disk.canonical_of_long rfl leadsTo_far (by decide +kernel)
  leadsTo := leadsTo_far

/-- On that disk the write through the link succeeds, and the other name of the file shows the new
bytes. -/
theorem write_ok_changes_other_name :
    farDisk.WellFormed ∧ farDisk.umask = 0o022 ∧
      (write {} farDisk [] (.ofText "l") [2]).result = .ok () ∧
      (∀ loc dev, farDisk.leadsTo (.ofText "l") ≠ .ok (loc, .device dev)) ∧
      farDisk.get? ("b" :: farDirectory 8) = some (.file 0 0o644 [1]) ∧
      (write {} farDisk [] (.ofText "l") [2]).disk.get? ("b" :: farDirectory 8) =
        some (.file 0 0o644 [2]) ∧
      ¬ ∃ loc, PutsOnly farDisk (write {} farDisk [] (.ofText "l") [2]).disk (.ofText "l") [2] loc := by
  have hdestination : destination farDisk (.ofText "l") = .inPlace := by
    unfold destination
    rw [farLink_far.canonical]
    exact if_pos farLink_far.isLink
  have hopened : farDisk.openEmptied (.ofText "l") =
      .ok (.file 0, farDisk.changeFile 0 (Entry.withBytes [])) := by
    have hslot : farDisk.resolve .toOpen (.ofText "l") = .ok (.name (farDirectory 16) "f" false) :=
      Disk.resolve_of_reaches rfl (reaches_far rfl rfl)
    simp only [Disk.openEmptied, hslot, bind, Except.bind, get?_far_file, Bool.false_eq_true,
      if_false]
    rfl
  obtain ⟨hok, hafter⟩ : (write {} farDisk [] (.ofText "l") [2]).result = .ok () ∧
      (write {} farDisk [] (.ofText "l") [2]).disk = farDisk.changeFile 0 (Entry.withBytes [2]) := by
    simp only [write, hdestination, writeInPlace, attempt, Option.elim_none, hopened, Disk.writeAll,
      Disk.write_emptied, and_self]
  rw [hafter]
  refine ⟨wellFormed_farDisk, rfl, hok, ?_, get?_far_other_name, ?_, ?_⟩
  · rw [leadsTo_far]
    rintro _ _ ⟨⟩
  · rw [Disk.get?_changeFile, get?_far_other_name]
    rfl
  · rw [putsOnly_changeFile_iff wellFormed_farDisk leadsTo_far]
    rintro ⟨-, hnames⟩
    have hother : "b" :: farDirectory 8 ≠ "f" :: farDirectory 16 := by simp
    exact absurd (hnames _ _ _ hother get?_far_other_name) (by decide)

end TtyGuard.Artifact
