/-
# TtyGuard.Proofs.Disk.Outline — disks that differ in files alone

What a file holds, who may read it and which other names it has guide no walk, and so they decide
neither where a path leads nor whether it is a link: disks with the same outline agree on that
(`SameOutline.canonical`, `SameOutline.isLink`).  Of disks that hold the same bytes under the same
names, only the numbers of files can differ: `SameTree`.
-/
import TtyGuard.Proofs.Disk.Beside

namespace TtyGuard

namespace Entry

/-- What the name of an entry tells of it: all but the contents of a file, its number and its
permissions. -/
def outline : Entry → Entry
  | file .. => file 0 0 []
  | e => e

theorem filter_leadsOn_outline (e : Option Entry) :
    (e.map outline).filter leadsOn = e.filter leadsOn := by
  cases e with
  | none => rfl
  | some e =>
    cases e with
    | _ => rfl

/-- Only files have something that the outline leaves out. -/
theorem eq_of_outline {e e' : Entry} (h : e'.outline = e.outline) (hfile : e.number? = none) :
    e' = e := by
  cases e with
  | file number mode bytes => cases hfile
  | _ =>
    cases e' with
    | file number mode bytes => cases h
    | _ => exact h

/-- The entry with other numbers for files. -/
def renumber (σ : Equiv.Perm Nat) : Entry → Entry
  | file number mode bytes => file (σ number) mode bytes
  | e => e

end Entry

namespace Disk

variable {d d' : Disk} {m : Manner} {loc : Location} {slot : Slot} {e : Entry} {p : Path}

/-! ## The outline of a disk -/

/-- The disks have the same names for the same kinds of things. -/
structure SameOutline (d d' : Disk) : Prop where
  cwd : d'.cwd = d.cwd
  entries : ∀ loc, (d'.get? loc).map Entry.outline = (d.get? loc).map Entry.outline

namespace SameOutline

theorem refl (d : Disk) : SameOutline d d := ⟨rfl, fun _ => rfl⟩

theorem symm (h : SameOutline d d') : SameOutline d' d :=
  ⟨h.cwd.symm, fun loc => (h.entries loc).symm⟩

theorem exists_get? (h : SameOutline d d') (hget : d.get? loc = some e) :
    ∃ e', d'.get? loc = some e' ∧ e'.outline = e.outline := by
  have hentry := h.entries loc
  rw [hget] at hentry
  exact Option.map_eq_some_iff.mp hentry

theorem sameWays (h : SameOutline d d') : SameWays d d' := by
  intro loc
  rw [← Entry.filter_leadsOn_outline, ← h.entries loc, Entry.filter_leadsOn_outline]

theorem reaches {links : Nat} {steps : List Path.Step} (h : SameOutline d d')
    (hslot : Reaches d m links (origin d.cwd p) steps slot) :
    Reaches d' m links (origin d'.cwd p) steps slot :=
  h.cwd ▸ hslot.congr h.sameWays

theorem occupied (h : SameOutline d d') (hfound : d.occupied slot = .ok (loc, e)) :
    ∃ e', d'.occupied slot = .ok (loc, e') ∧ e'.outline = e.outline := by
  cases slot with
  | directory here =>
    cases hfound
    refine ⟨_, rfl, ?_⟩
    have hentry := congrArg (Option.getD · Entry.newDirectory) (h.entries loc)
    have hgetD (o : Option Entry) :
        (o.map Entry.outline).getD .newDirectory = (o.getD .newDirectory).outline := by
      cases o with
      | _ => rfl
    exact (hgetD _).symm.trans (hentry.trans (hgetD _))
  | name dir name slash =>
    obtain ⟨rfl, hget⟩ := occupied_name_eq_ok_iff.mp hfound
    obtain ⟨e', hget', hsame⟩ := h.exists_get? hget
    exact ⟨e', occupied_name_eq_ok_iff.mpr ⟨rfl, hget'⟩, hsame⟩

/-- A path leads to the same location by the same path from the root. -/
theorem canonical (h : SameOutline d d') (hfound : d.canonical p = .ok (loc, e)) :
    ∃ e', d'.canonical p = .ok (loc, e') ∧ e'.outline = e.outline := by
  obtain ⟨hnul, hempty⟩ := text_of_canonical hfound
  obtain ⟨⟨slot, hslot, hentry⟩, hlength⟩ := canonical_eq_ok hfound
  obtain ⟨e', hentry', hsame⟩ := h.occupied hentry
  exact ⟨e', canonical_of_reaches hnul hempty (h.reaches hslot) hentry' hlength, hsame⟩

theorem isLink_of_isLink (h : SameOutline d d') (hlink : d.isLink p = true) :
    d'.isLink p = true := by
  obtain ⟨htext, slot, loc, target, hslot, hentry⟩ := isLink_eq_true hlink
  obtain ⟨e', hentry', hsame⟩ := h.occupied hentry
  obtain rfl : e' = .link target := Entry.eq_of_outline hsame rfl
  have hfound : d'.resolve .toEntry p >>= d'.occupied = .ok (loc, .link target) :=
    bind_eq_ok.mpr ⟨slot, resolve_of_reaches htext (h.reaches hslot), hentry'⟩
  unfold isLink
  rw [hfound]

theorem isLink (h : SameOutline d d') : d'.isLink p = d.isLink p :=
  Bool.eq_iff_iff.mpr ⟨h.symm.isLink_of_isLink, h.isLink_of_isLink⟩

end SameOutline

theorem sameOutline_changeFile (d : Disk) (number : Nat) (bytes : List UInt8) :
    SameOutline d (d.changeFile number (Entry.withBytes bytes)) where
  cwd := rfl
  entries := by
    intro loc
    rw [get?_changeFile, Option.map_map]
    refine Option.map_congr fun e _ => ?_
    cases e with
    | file n mode old =>
      show (if _ then _ else _ : Entry).outline = _
      split
      · rfl
      · rfl
    | _ => rfl

/-! ## Disks that are the same tree -/

/-- The disks are the same tree, whichever numbers its files have. -/
def SameTree (d d' : Disk) : Prop :=
  d'.cwd = d.cwd ∧ ∃ σ : Equiv.Perm Nat, ∀ loc, d'.get? loc = (d.get? loc).map (Entry.renumber σ)

theorem SameTree.refl (d : Disk) : SameTree d d := by
  refine ⟨rfl, Equiv.refl Nat, fun loc => ?_⟩
  cases d.get? loc with
  | none => rfl
  | some e =>
    cases e with
    | _ => rfl

end Disk

end TtyGuard
