/-
# TtyGuard.Proofs.Disk.Tree — disks that are trees, and the way down to a location

A disk is well formed if what stands around every entry is a directory.  In such a disk a walk that
begins in a directory ends in one (`Reaches.isDirectory_around`), and the path of an entry from the root
has no link on it: `Reaches.slot_of_ofLocation` says that a walk along it, if it succeeds, ends at
that entry.
-/
import TtyGuard.Proofs.Disk.Reach

namespace TtyGuard

/-! ## Names -/

/-- A name that an entry can have: walking to it goes one step down. -/
def IsName (name : String) : Prop := name ≠ "" ∧ name ≠ "." ∧ name ≠ ".."

instance (name : String) : Decidable (IsName name) := inferInstanceAs (Decidable (_ ∧ _))

namespace Path

theorem Step.ofSegment_of_isName {name : String} (h : IsName name) :
    Step.ofSegment name = .down name := by
  unfold Step.ofSegment
  rw [if_neg h.2.1, if_neg h.2.2]

/-- The way to a location leads down only. -/
theorem steps_ofLocation {loc : Location} (h : ∀ name ∈ loc, IsName name) :
    (ofLocation loc).steps = loc.reverse.map .down := by
  cases loc with
  | nil => decide
  | cons name dir =>
    have hnames : ∀ x ∈ (name :: dir).reverse, IsName x := fun x hx => h x (List.mem_reverse.mp hx)
    have hnamed : (ofLocation (name :: dir)).segments.filter (!·.isEmpty) = (name :: dir).reverse := by
      show ("" :: (name :: dir).reverse).filter (!·.isEmpty) = _
      rw [List.filter_cons_of_neg (by decide), List.filter_eq_self]
      intro x hx
      simpa using (hnames x hx).1
    have hending : (ofLocation (name :: dir)).segments.getLast?.any String.isEmpty = false := by
      show ("" :: (name :: dir).reverse).getLast?.any String.isEmpty = false
      rw [List.reverse_cons, ← List.cons_append, List.getLast?_concat]
      simpa using (h name List.mem_cons_self).1
    unfold steps
    rw [hnamed, hending]
    simp only [Bool.false_and, Bool.false_eq_true, if_false, List.append_nil]
    exact List.map_congr_left fun x hx => Step.ofSegment_of_isName (hnames x hx)

end Path

namespace Disk

open TtyGuard.Path (Step)

variable {d : Disk} {m : Manner} {links : Nat} {loc dir : Location} {name : String}
  {steps rest : List Step} {slot : Slot} {e : Entry} {p : Path}

/-! ## Trees -/

/-- A directory stands at the location. -/
def IsDirectory (d : Disk) (loc : Location) : Prop := ∃ mode, d.get? loc = some (.directory mode)

instance (d : Disk) (loc : Location) : Decidable (d.IsDirectory loc) :=
  match h : d.get? loc with
  | some (.directory _) => .isTrue ⟨_, h⟩
  | some (.file ..) | some (.link _) | some (.device _) | none =>
    .isFalse fun ⟨_, hmode⟩ => nomatch h.symm.trans hmode

/-- Everything stands in a directory and has a name there. -/
structure WellFormed (d : Disk) : Prop where
  cwd : d.IsDirectory d.cwd
  around : ∀ x ∈ d.entries, d.IsDirectory x.1.tail
  named : ∀ x ∈ d.entries, ∀ name ∈ x.1, IsName name

instance (d : Disk) : Decidable d.WellFormed :=
  decidable_of_iff (d.IsDirectory d.cwd ∧ (∀ x ∈ d.entries, d.IsDirectory x.1.tail) ∧
    ∀ x ∈ d.entries, ∀ name ∈ x.1, IsName name)
    ⟨fun ⟨cwd, around, named⟩ => ⟨cwd, around, named⟩, fun ⟨cwd, around, named⟩ => ⟨cwd, around, named⟩⟩

theorem isDirectory_root (d : Disk) : d.IsDirectory [] := ⟨_, rfl⟩

theorem not_isDirectory_of_none (h : d.get? loc = none) : ¬ d.IsDirectory loc := by
  rintro ⟨mode, hmode⟩
  cases h.symm.trans hmode

theorem not_isDirectory_of_file {number mode : Nat} {old : List UInt8}
    (h : d.get? loc = some (.file number mode old)) : ¬ d.IsDirectory loc := by
  rintro ⟨mode, hmode⟩
  cases h.symm.trans hmode

/-- What a path begins with is a directory. -/
theorem IsDirectory.origin (hloc : d.IsDirectory loc) (p : Path) :
    d.IsDirectory (origin loc p) := by
  unfold Disk.origin
  split
  · exact d.isDirectory_root
  · exact hloc

theorem mem_entries_of_get? (h : d.get? loc = some e) (hloc : loc ≠ []) : (loc, e) ∈ d.entries := by
  have hlookup : d.entries.lookup loc = some e := by
    simpa [get?, hloc] using h
  obtain ⟨before, after, hentries, -⟩ := List.lookup_eq_some_iff.mp hlookup
  rw [hentries]
  exact List.mem_append_right _ List.mem_cons_self

namespace WellFormed

theorem isDirectory_tail (hd : d.WellFormed) (h : d.get? loc = some e) :
    d.IsDirectory loc.tail := by
  cases loc with
  | nil => exact d.isDirectory_root
  | cons name dir => exact hd.around _ (mem_entries_of_get? h (List.cons_ne_nil name dir))

theorem isName (hd : d.WellFormed) (h : d.get? loc = some e) : ∀ name ∈ loc, IsName name := by
  cases loc with
  | nil => exact fun name hname => absurd hname List.not_mem_nil
  | cons name dir => exact hd.named _ (mem_entries_of_get? h (List.cons_ne_nil name dir))

/-- Every location above an entry is a directory. -/
theorem isDirectory_of_suffix (hd : d.WellFormed) {above : Location} (h : d.get? loc = some e)
    (habove : above <:+ loc) (hne : above ≠ loc) : d.IsDirectory above := by
  induction loc generalizing e with
  | nil => exact absurd (List.suffix_nil.mp habove) hne
  | cons name dir ih =>
    have hdir : d.IsDirectory dir := hd.isDirectory_tail h
    obtain hself | hsuffix := List.suffix_cons_iff.mp habove
    · exact absurd hself hne
    · by_cases heq : above = dir
      · rwa [heq]
      · obtain ⟨mode, hmode⟩ := hdir
        exact ih hmode hsuffix heq

end WellFormed

/-! ## Where a walk ends -/

/-- The directory that a slot is, or is in. -/
def Slot.around : Slot → Location
  | .directory loc => loc
  | .name dir _ _ => dir

namespace Reaches

/-- A walk that begins in a directory ends in one. -/
theorem isDirectory_around (hd : d.WellFormed) (h : Reaches d m links loc steps slot)
    (hloc : d.IsDirectory loc) : d.IsDirectory slot.around := by
  induction h with
  | arrive => exact hloc
  | here _ ih => exact ih hloc
  | slash _ ih => exact ih hloc
  | up _ ih =>
    obtain ⟨mode, hmode⟩ := hloc
    exact ih (hd.isDirectory_tail hmode)
  | keep _ => exact hloc
  | stop _ _ _ => exact hloc
  | follow _ _ _ _ _ ih => exact ih (hloc.origin _)
  | enter _ _ hget _ ih => exact ih ⟨_, hget⟩

/-- A slot that is occupied is so by what stands at its location. -/
theorem get?_of_occupied (hd : d.WellFormed)
    (h : Reaches d m links (origin d.cwd p) steps slot) (hslot : d.occupied slot = .ok (loc, e)) :
    d.get? loc = some e := by
  cases slot with
  | directory here =>
    obtain ⟨mode, hmode⟩ : d.IsDirectory here := h.isDirectory_around hd (hd.cwd.origin p)
    change Except.ok (here, (d.get? here).getD .newDirectory) = _ at hslot
    rw [hmode] at hslot
    cases hslot
    exact hmode
  | name dir name slash =>
    obtain ⟨rfl, hget⟩ := occupied_name_eq_ok_iff.mp hslot
    exact hget

/-- No way leads on from where a walk that follows links ends, unless it is a directory. -/
theorem leadsOn_eq_none (h : Reaches d m links loc steps (.name dir name false))
    (hfollow : m.follow = true) (hdirectory : ¬ d.IsDirectory (name :: dir)) :
    (d.get? (name :: dir)).filter Entry.leadsOn = none := by
  cases hget : d.get? (name :: dir) with
  | none => rfl
  | some e =>
    cases e with
    | directory mode => exact absurd ⟨mode, hget⟩ hdirectory
    | link target => exact absurd hget (h.get?_ne_link hfollow target)
    | file number mode old => rfl
    | device dev => rfl

/-- On the way down through directories a walk meets no link, and it stops at the last name. -/
theorem slot_of_down {base : Location} {names : List String}
    (hnames : names.reverse ++ base = name :: dir) (hbase : base ≠ name :: dir)
    (habove : ∀ above, above <:+ name :: dir → above ≠ name :: dir → d.IsDirectory above)
    (hfollow : m.follow = false) (h : Reaches d m links base (names.map .down) slot) :
    slot = .name dir name false := by
  -- `base` is the directory reached so far, and `names` are still to go.
  induction names generalizing base with
  | nil => exact absurd hnames hbase
  | cons x rest ih =>
    rw [List.reverse_cons, List.append_assoc] at hnames
    cases rest with
    | nil =>
      obtain ⟨rfl, rfl⟩ : x = name ∧ base = dir := by simpa using hnames
      cases h with
      | keep hlast => cases hlast
      | stop hlast hadmits hlink => rfl
      | follow hlast hadmits hget hgo _ => exact absurd (hgo rfl) (by simp [hfollow])
      | enter hlast hadmits hget _ => cases hlast
    | cons y rest =>
      have hsuffix : x :: base <:+ name :: dir := ⟨_, hnames⟩
      have hne : x :: base ≠ name :: dir := by
        intro heq
        rw [← heq] at hnames
        have hlength := congrArg List.length hnames
        simp only [List.length_append, List.length_reverse, List.length_cons] at hlength
        omega
      obtain ⟨mode, hmode⟩ := habove (x :: base) hsuffix hne
      cases h with
      | keep hlast => cases hlast
      | stop hlast hadmits hlink => cases hlast
      | follow hlast hadmits hget hgo _ => cases hmode.symm.trans hget
      | enter hlast hadmits hget hrest => exact ih hnames hne hrest

/-- The path of an entry from the root leads to that entry. -/
theorem slot_of_ofLocation (hd : d.WellFormed) (hget : d.get? (name :: dir) = some e)
    (hfollow : m.follow = false)
    (h : Reaches d m links (origin loc (Path.ofLocation (name :: dir)))
      (Path.ofLocation (name :: dir)).steps slot) :
    slot = .name dir name false := by
  have hroot : origin loc (Path.ofLocation (name :: dir)) = [] := by
    have habsolute : (Path.ofLocation (name :: dir)).isAbsolute = true := by
      simp [Path.ofLocation, Path.isAbsolute]
    rw [origin, if_pos habsolute]
  rw [hroot, Path.steps_ofLocation (hd.isName hget)] at h
  refine slot_of_down ?_ (List.cons_ne_nil name dir).symm ?_ hfollow h
  · rw [List.reverse_reverse, List.append_nil]
  · exact fun above hsuffix hne => hd.isDirectory_of_suffix hget hsuffix hne

end Reaches

end Disk

end TtyGuard
