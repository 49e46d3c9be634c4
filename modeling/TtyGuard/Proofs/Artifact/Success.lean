/-
# TtyGuard.Proofs.Artifact.Success — when a write succeeds, and what it leaves

`write_error_leaves_no_trace` is about writes that fail; here are those that do not.  A write
succeeds if it would with nothing in its way and none of its own steps is refused
(`write_ok_iff_permits`), and so the rest is about writes that nothing hinders.  A path that leads to
a file or to a free name can be written, if there is room for a staged file (`write_of_reaches`), and
a write that succeeds went to a name of that kind or to a device.  The bytes are then where the path
leads (`leadsTo_of_write_ok`), in a new file or in the one that stood there: `Puts`.
-/
import TtyGuard.Proofs.Artifact.Staging

namespace TtyGuard.Artifact

open Disk (Manner Reaches SameWays maxLinks maxPathLength origin)

variable {o : Hindrance} {d after : Disk} {draws : List String} {p target : Path} {name : String}
  {bytes : List UInt8} {loc dir : Location} {e : Entry}

/-! ## Bytes at a location -/

/-- The bytes were put at a location: in a new file, or in the file that stood there. -/
inductive Puts (d : Disk) (loc : Location) (bytes : List UInt8) : Disk → Prop
  | new {permissions} (hloc : loc ≠ []) (hold : (d.get? loc).filter Entry.leadsOn = none) :
      Puts d loc bytes (d.insert loc (d.newFile permissions bytes))
  | again {number mode old} (hold : d.get? loc = some (.file number mode old)) :
      Puts d loc bytes (d.changeFile number (Entry.withBytes bytes))

namespace Puts

theorem of_insert (permissions : Nat) (bytes : List UInt8)
    (hslot : Reaches d .toTarget maxLinks (origin d.cwd p) p.steps (.name dir name false))
    (hdirectory : ¬ d.IsDirectory (name :: dir)) :
    Puts d (name :: dir) bytes (d.insert (name :: dir) (d.newFile permissions bytes)) :=
  .new (List.cons_ne_nil name dir) (hslot.leadsOn_eq_none rfl hdirectory)

theorem get?_self (h : Puts d loc bytes after) :
    ∃ number mode, after.get? loc = some (.file number mode bytes) := by
  cases h with
  | new hloc hold => exact ⟨_, _, Disk.get?_insert_self d _ hloc⟩
  | @again number mode old hold =>
    refine ⟨number, mode, ?_⟩
    rw [Disk.get?_changeFile, hold]
    exact congrArg some (if_pos rfl)

theorem sameWays (h : Puts d loc bytes after) : SameWays d after := by
  cases h with
  | new hloc hold => exact Disk.sameWays_insert hloc hold rfl
  | again hold => exact d.sameWays_changeFile _ bytes

theorem cwd (h : Puts d loc bytes after) : after.cwd = d.cwd := by
  cases h with
  | new hloc hold => rfl
  | again hold => rfl

/-- A path that leads to the location leads to the bytes. -/
theorem leadsTo (h : Puts d (name :: dir) bytes after)
    (hslot : Reaches d .toTarget maxLinks (origin d.cwd p) p.steps (.name dir name false)) :
    ∃ number mode, after.leadsTo p = .ok (name :: dir, .file number mode bytes) := by
  obtain ⟨number, mode, hget⟩ := h.get?_self
  have hthere : Reaches after .toTarget maxLinks (origin after.cwd p) p.steps
      (.name dir name false) := h.cwd ▸ hslot.congr h.sameWays
  exact ⟨number, mode, (Disk.leadsTo_eq_ok_iff hthere).mpr ⟨rfl, hget⟩⟩

end Puts

/-! ## Where the bytes go -/

/-- What is replaced exists and is no device, or it is the path itself and no link. -/
theorem destination_eq_replace (h : destination d p = .replace target) :
    (∃ loc e, d.canonical p = .ok (loc, e) ∧ (∀ dev, e ≠ .device dev) ∧
        target = .ofLocation loc) ∨
      ∃ cause, d.canonical p = .error cause ∧ d.isLink p = false ∧ target = p := by
  unfold destination at h
  cases hcanonical : d.canonical p with
  | ok found =>
    obtain ⟨loc, e⟩ := found
    rw [hcanonical] at h
    cases e with
    | device dev => cases h
    | _ =>
      cases h
      exact .inl ⟨loc, _, rfl, nofun, rfl⟩
  | error cause =>
    rw [hcanonical] at h
    cases hlink : d.isLink p with
    | true =>
      rw [hlink] at h
      cases h
    | false =>
      rw [hlink] at h
      cases h
      exact .inr ⟨cause, rfl, rfl, rfl⟩

theorem write_of_inPlace (h : destination d p = .inPlace) :
    write o d draws p bytes = writeInPlace o d p bytes := by
  unfold write
  rw [h]

theorem write_of_replace (h : destination d p = .replace target) :
    write o d draws p bytes = replace o d draws p target bytes := by
  unfold write
  rw [h]

/-! ## What is permitted -/

theorem writeInPlace_of_permits (h : o.Permits .inPlace) :
    writeInPlace o d p bytes = writeInPlace {} d p bytes := by
  have hopening : o.opening = none := h
  unfold writeInPlace
  rw [hopening]

/-- A write in place that succeeds was not refused to open what the path leads to. -/
theorem permits_of_writeInPlace_ok (hok : (writeInPlace o d p bytes).result = .ok ()) :
    o.Permits .inPlace := by
  obtain ⟨e, he, -⟩ | ⟨-, hpermits, -⟩ := writeInPlace_cases o d p bytes
  · cases he.symm.trans hok
  · exact hpermits

/-- A write in place that succeeds went to a file, to a free name or to a device. -/
theorem slot_of_writeInPlace (hok : (writeInPlace o d p bytes).result = .ok ()) :
    ∃ dir name, Disk.checkText p = .ok () ∧
      Reaches d .toTarget maxLinks (origin d.cwd p) p.steps (.name dir name false) ∧
      ((d.get? (name :: dir) = none ∨
          ∃ number mode old, d.get? (name :: dir) = some (.file number mode old)) ∨
        ∃ dev, d.get? (name :: dir) = some (.device dev)) := by
  obtain ⟨e, he, -⟩ | ⟨-, -, handle, opened, hopen, -⟩ := writeInPlace_cases o d p bytes
  · cases he.symm.trans hok
  obtain ⟨dir, name, hresolved, hentry⟩ := Disk.openEmptied_eq_ok hopen
  obtain ⟨htext, hreach⟩ := Disk.resolve_eq_ok hresolved
  refine ⟨dir, name, htext, hreach.toTarget rfl nofun, ?_⟩
  rcases hentry with ⟨number, mode, old, hget, -, -⟩ | ⟨dev, hget, -, -⟩ | ⟨hget, -, -⟩
  · exact .inl (.inr ⟨number, mode, old, hget⟩)
  · exact .inr ⟨dev, hget⟩
  · exact .inl (.inl hget)

/-- A replacement that succeeds has put a new file where the path leads. -/
theorem slot_of_replace (hd : d.WellFormed) (hdestination : destination d p = .replace target)
    (hok : (write o d draws p bytes).result = .ok ()) :
    ∃ dir name, Reaches d .toTarget maxLinks (origin d.cwd p) p.steps (.name dir name false) ∧
      (Disk.checkText p = .ok () ∨ ∃ e, d.canonical p = .ok (name :: dir, e)) ∧
      ¬ d.IsDirectory (name :: dir) ∧
      (write o d draws p bytes).disk =
        d.insert (name :: dir) (d.newFile stagedPermissions bytes) := by
  rw [write_of_replace hdestination] at hok ⊢
  rcases destination_eq_replace hdestination with ⟨loc, e, hcanonical, -, rfl⟩ |
    ⟨cause, -, hlink, rfl⟩
  · obtain ⟨dir, name, rfl, hslot, hdirectory, hafter⟩ :=
      slot_of_replace_canonical hd hcanonical hok
    exact ⟨dir, name, hslot, .inr ⟨e, hcanonical⟩, hdirectory, hafter⟩
  · obtain ⟨dir, name, htext, hslot, hdirectory, hafter⟩ := slot_of_replace_self hlink hok
    exact ⟨dir, name, hslot, .inl htext, hdirectory, hafter⟩

/-! ## Ways that succeed -/

/-- Unless something hinders it, a write in place goes into the file where the path leads. -/
theorem writeInPlace_of_file (bytes : List UInt8) {number mode : Nat} {old : List UInt8}
    (htext : Disk.checkText p = .ok ())
    (hslot : Reaches d .toTarget maxLinks (origin d.cwd p) p.steps (.name dir name false))
    (hget : d.get? (name :: dir) = some (.file number mode old)) :
    (writeInPlace {} d p bytes).result = .ok () ∧
      (writeInPlace {} d p bytes).disk = d.changeFile number (Entry.withBytes bytes) := by
  have hopened := (Disk.openEmptied_of_reaches htext hslot).1 number mode old hget
  unfold writeInPlace
  simp only [attempt, Option.elim_none, hopened, Disk.writeAll, Disk.write_emptied, and_self]

/-- Where there is none, it makes a file. -/
theorem writeInPlace_of_free (bytes : List UInt8) (htext : Disk.checkText p = .ok ())
    (hslot : Reaches d .toTarget maxLinks (origin d.cwd p) p.steps (.name dir name false))
    (hget : d.get? (name :: dir) = none) :
    (writeInPlace {} d p bytes).result = .ok () ∧
      (writeInPlace {} d p bytes).disk =
        d.insert (name :: dir) (d.newFile Disk.openedPermissions bytes) := by
  have hopened := (Disk.openEmptied_of_reaches htext hslot).2.2 hget
  unfold writeInPlace
  simp only [attempt, Option.elim_none, hopened, Disk.writeAll, Disk.write_insert_newFile, and_self]

/-- A device takes the bytes unless it is a full one, and nothing changes. -/
theorem writeInPlace_of_device (bytes : List UInt8) {dev : Device}
    (htext : Disk.checkText p = .ok ())
    (hslot : Reaches d .toTarget maxLinks (origin d.cwd p) p.steps (.name dir name false))
    (hget : d.get? (name :: dir) = some (.device dev)) :
    ((writeInPlace {} d p bytes).result = .ok () ↔ (dev = .full → bytes = [])) ∧
      (writeInPlace {} d p bytes).disk = d := by
  have hopened := (Disk.openEmptied_of_reaches htext hslot).2.1 dev hget
  unfold writeInPlace
  simp only [attempt, Option.elim_none, hopened]
  cases dev with
  | sink => exact ⟨iff_of_true rfl (by rintro ⟨⟩), rfl⟩
  | stream s => exact ⟨iff_of_true rfl (by rintro ⟨⟩), rfl⟩
  | full =>
    cases bytes with
    | nil => exact ⟨iff_of_true rfl fun _ => rfl, rfl⟩
    | cons byte bytes =>
      exact ⟨iff_of_false (by rintro ⟨⟩) fun h => List.cons_ne_nil byte bytes (h rfl), rfl⟩

/-- So it puts the bytes where the path leads, to a file or to a free name. -/
theorem writeInPlace_of_reaches (htext : Disk.checkText p = .ok ())
    (hslot : Reaches d .toTarget maxLinks (origin d.cwd p) p.steps (.name dir name false))
    (hold : d.get? (name :: dir) = none ∨
      ∃ number mode old, d.get? (name :: dir) = some (.file number mode old)) :
    (writeInPlace {} d p bytes).result = .ok () ∧
      Puts d (name :: dir) bytes (writeInPlace {} d p bytes).disk := by
  rcases hold with hnone | ⟨number, mode, old, hfile⟩
  · obtain ⟨hok, hafter⟩ := writeInPlace_of_free bytes htext hslot hnone
    have hfree : (d.get? (name :: dir)).filter Entry.leadsOn = none := by
      rw [hnone]
      rfl
    exact ⟨hok, hafter ▸ .new (List.cons_ne_nil name dir) hfree⟩
  · obtain ⟨hok, hafter⟩ := writeInPlace_of_file bytes htext hslot hfile
    exact ⟨hok, hafter ▸ .again hfile⟩

/-- With room and a fresh name, what is to be replaced and is no directory is replaced. -/
theorem write_replaces (bytes : List UInt8) (hd : d.WellFormed) (hnamed : d.WellNamed)
    (hfresh : Fresh d draws p) (hroom : HasRoom d draws p)
    (hdestination : destination d p = .replace target)
    (hslot : Reaches d .toTarget maxLinks (origin d.cwd p) p.steps (.name dir name false))
    (htext : Disk.checkText p = .ok () ∨ ∃ e, d.canonical p = .ok (name :: dir, e))
    (hdirectory : ¬ d.IsDirectory (name :: dir)) :
    (write {} d draws p bytes).result = .ok () ∧
      (write {} d draws p bytes).disk =
        d.insert (name :: dir) (d.newFile stagedPermissions bytes) := by
  rw [write_of_replace hdestination]
  rcases destination_eq_replace hdestination with ⟨loc, e, hcanonical, -, rfl⟩ |
    ⟨cause, hcanonical, hlink, rfl⟩
  · obtain ⟨rfl, hget⟩ := (Disk.leadsTo_eq_ok_iff hslot).mp (Disk.leadsTo_of_canonical hcanonical)
    have htarget : Disk.checkText (.ofLocation (name :: dir)) = .ok () :=
      Disk.checkText_eq_ok_iff.mpr ⟨hnamed.hasNul_ofLocation hget,
        Path.isEmpty_of_isAbsolute (Path.isAbsolute_ofLocation _),
        (Disk.canonical_eq_ok hcanonical).2⟩
    exact replace_eq_ok_of_room hd hnamed hfresh hroom hdestination htarget
      (.of_ofLocation hd hnamed rfl rfl hget) hdirectory
  · have hcheck : Disk.checkText target = .ok () :=
      htext.resolve_right fun ⟨_, hok⟩ => nomatch hcanonical.symm.trans hok
    -- There is no link at the end to be followed, so the walk to replace ends there, too.
    have hreach : Reaches d .toReplace maxLinks (origin d.cwd target) target.steps
        (.name dir name false) := by
      rcases hslot.exists_link with hstay | ⟨dir', other, target, hstay, hget⟩
      · exact hstay.in_manner nofun nofun nofun
      · exact nomatch hlink.symm.trans (Disk.isLink_of_reaches hcheck hstay hget)
    exact replace_eq_ok_of_room hd hnamed hfresh hroom hdestination hcheck hreach hdirectory

/-- With room and a fresh name, a path that leads to a file or to a free name can be written. -/
theorem write_of_reaches (hd : d.WellFormed) (hnamed : d.WellNamed) (hfresh : Fresh d draws p)
    (hroom : HasRoom d draws p)
    (hslot : Reaches d .toTarget maxLinks (origin d.cwd p) p.steps (.name dir name false))
    (htext : Disk.checkText p = .ok ())
    (hold : d.get? (name :: dir) = none ∨
      ∃ number mode old, d.get? (name :: dir) = some (.file number mode old)) :
    (write {} d draws p bytes).result = .ok () ∧
      Puts d (name :: dir) bytes (write {} d draws p bytes).disk := by
  cases hdestination : destination d p with
  | inPlace =>
    rw [write_of_inPlace hdestination]
    exact writeInPlace_of_reaches htext hslot hold
  | replace target =>
    have hdirectory : ¬ d.IsDirectory (name :: dir) := by
      rcases hold with hnone | ⟨_, _, _, hfile⟩
      · exact Disk.not_isDirectory_of_none hnone
      · exact Disk.not_isDirectory_of_file hfile
    obtain ⟨hok, hafter⟩ :=
      write_replaces bytes hd hnamed hfresh hroom hdestination hslot (.inl htext) hdirectory
    exact ⟨hok, hafter ▸ .of_insert _ bytes hslot hdirectory⟩

/-- After a write that succeeds, whatever could have hindered it, the path leads to a file that
holds the bytes, or it leads to a device as before and nothing has changed. -/
theorem leadsTo_of_write_ok (hd : d.WellFormed) (hok : (write o d draws p bytes).result = .ok ()) :
    (∃ loc number mode,
        (write o d draws p bytes).disk.leadsTo p = .ok (loc, .file number mode bytes)) ∨
      (write o d draws p bytes).disk = d ∧ ∃ loc dev, d.leadsTo p = .ok (loc, .device dev) := by
  cases hdestination : destination d p with
  | replace target =>
    obtain ⟨dir, name, hslot, -, hdirectory, hafter⟩ := slot_of_replace hd hdestination hok
    rw [hafter]
    exact .inl ⟨_, (Puts.of_insert _ bytes hslot hdirectory).leadsTo hslot⟩
  | inPlace =>
    rw [write_of_inPlace hdestination] at hok ⊢
    obtain ⟨dir, name, htext, hslot, hold | ⟨dev, hget⟩⟩ := slot_of_writeInPlace hok
    all_goals rw [writeInPlace_of_permits (permits_of_writeInPlace_ok hok)]
    · exact .inl ⟨_, (writeInPlace_of_reaches htext hslot hold).2.leadsTo hslot⟩
    · have hleads : d.leadsTo p = .ok (name :: dir, .device dev) :=
        (Disk.leadsTo_eq_ok_iff hslot).mpr ⟨rfl, hget⟩
      exact .inr ⟨(writeInPlace_of_device bytes htext hslot hget).2, _, dev, hleads⟩

end TtyGuard.Artifact
