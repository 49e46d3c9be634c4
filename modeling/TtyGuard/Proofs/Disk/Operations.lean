/-
# TtyGuard.Proofs.Disk.Operations — what each operation on a disk can have done

One lemma for each operation that the writer uses: from its success, where its path leads and what
the disk is after it.  Later proofs use these and open no operation.  The number of a new file is one
that no other has (`number_lt_freshNumber`), so that writing to it changes nothing else
(`changeFile_insert_newFile`).  What is written over an empty file is all that it holds
(`withStart_newFile`, `withStart_comp_withBytes`).
-/
import TtyGuard.Disk.Operation
import TtyGuard.Proofs.Basic

namespace TtyGuard.Disk

variable {d after : Disk} {loc other dir : Location} {p : Path} {e : Entry} {number : Nat}

/-! ## Numbers -/

theorem le_foldl_freshNumber (entries : List (Location × Entry)) (n : Nat) :
    n ≤ entries.foldl (fun n (_, e) => max n (e.number?.elim 0 (· + 1))) n ∧
    ∀ x ∈ entries, ∀ k, x.2.number? = some k →
      k < entries.foldl (fun n (_, e) => max n (e.number?.elim 0 (· + 1))) n := by
  induction entries generalizing n with
  | nil => exact ⟨Nat.le_refl n, fun x hx => absurd hx List.not_mem_nil⟩
  | cons first rest ih =>
    rw [List.foldl_cons]
    obtain ⟨hle, hlt⟩ := ih (max n (first.2.number?.elim 0 (· + 1)))
    refine ⟨Nat.le_trans (Nat.le_max_left _ _) hle, ?_⟩
    intro x hx k hk
    rcases List.mem_cons.mp hx with rfl | hx
    · have hmax : k + 1 ≤ max n (x.2.number?.elim 0 (· + 1)) := by
        rw [hk]
        exact Nat.le_max_right _ _
      exact Nat.lt_of_lt_of_le hmax hle
    · exact hlt x hx k hk

/-- Every file's number is below the one for a new file. -/
theorem number_lt_freshNumber (d : Disk) :
    ∀ x ∈ d.entries, ∀ number, x.2.number? = some number → number < d.freshNumber :=
  (le_foldl_freshNumber d.entries 0).2

/-! ## Changing a file -/

variable {permissions : Nat}

theorem number?_withBytes (bytes : List UInt8) (e : Entry) :
    (e.withBytes bytes).number? = e.number? := by
  cases e with
  | _ => rfl

theorem withStart_comp_withBytes (bytes : List UInt8) :
    Entry.withStart bytes ∘ Entry.withBytes [] = Entry.withBytes bytes := by
  funext e
  cases e with
  | file number mode old => simp [Entry.withBytes, Entry.withStart]
  | _ => rfl

theorem withStart_newFile (d : Disk) (permissions : Nat) (bytes : List UInt8) :
    (d.newFile permissions []).withStart bytes = d.newFile permissions bytes := by
  simp [newFile, Entry.withStart]

theorem get?_changeFile (d : Disk) (number : Nat) (change : Entry → Entry) (loc : Location) :
    (d.changeFile number change).get? loc =
      (d.get? loc).map fun e => if e.number? = some number then change e else e := by
  unfold get?
  split
  · rfl
  · exact lookup_map_snd d.entries (fun e => if e.number? = some number then change e else e) loc

/-- Changing a new file changes the new file alone. -/
theorem changeFile_insert_newFile (d : Disk) (loc : Location) (permissions : Nat)
    (bytes : List UInt8) (change : Entry → Entry) :
    (d.insert loc (d.newFile permissions bytes)).changeFile d.freshNumber change =
      d.insert loc (change (d.newFile permissions bytes)) := by
  have hold : (d.erase loc).entries.map (fun x =>
      (x.1, if x.2.number? = some d.freshNumber then change x.2 else x.2)) =
        (d.erase loc).entries := by
    refine (List.map_congr_left fun x hx => ?_).trans (List.map_id _)
    have hnumber : x.2.number? ≠ some d.freshNumber := by
      intro hfresh
      have hlt := d.number_lt_freshNumber x (List.mem_filter.mp hx).1 _ hfresh
      exact Nat.lt_irrefl _ hlt
    rw [if_neg hnumber]
    rfl
  unfold changeFile insert
  rw [List.map_cons, hold]
  simp [newFile, Entry.number?]

/-- So it holds what is written to it. -/
theorem write_insert_newFile (d : Disk) (loc : Location) (permissions : Nat) (bytes : List UInt8) :
    (d.insert loc (d.newFile permissions [])).changeFile d.freshNumber (Entry.withStart bytes) =
      d.insert loc (d.newFile permissions bytes) := by
  rw [changeFile_insert_newFile, withStart_newFile]

/-- Two changes of a file are one. -/
theorem changeFile_withBytes_changeFile (d : Disk) (number : Nat) (bytes : List UInt8)
    (change : Entry → Entry) :
    (d.changeFile number (Entry.withBytes bytes)).changeFile number change =
      d.changeFile number (change ∘ Entry.withBytes bytes) := by
  unfold changeFile
  simp only [List.map_map]
  congr 1
  refine List.map_congr_left fun x _ => ?_
  obtain ⟨loc, e⟩ := x
  by_cases hn : e.number? = some number
  · simp [hn, number?_withBytes]
  · simp [hn]

/-- A file that has lost its bytes holds what is written to it. -/
theorem write_emptied (d : Disk) (number : Nat) (bytes : List UInt8) :
    (d.changeFile number (Entry.withBytes [])).changeFile number (Entry.withStart bytes) =
      d.changeFile number (Entry.withBytes bytes) := by
  rw [changeFile_withBytes_changeFile, withStart_comp_withBytes]

/-! ## Setting permissions -/

/-- An operation that refuses directories and slashes, and succeeds, has worked at a name. -/
theorem exists_name_of_eq_ok {α : Type} {m : Manner} {act : Slot → Except SystemError α}
    {result : α} (h : (d.resolve m p >>= act) = .ok result)
    (hdirectory : ∀ loc, ∃ cause, act (.directory loc) = .error cause)
    (hslash : ∀ dir name, ∃ cause, act (.name dir name true) = .error cause) :
    ∃ dir name, d.resolve m p = .ok (.name dir name false) ∧
      act (.name dir name false) = .ok result := by
  obtain ⟨slot, hslot, h⟩ := bind_eq_ok.mp h
  cases slot with
  | directory loc =>
    obtain ⟨cause, hcause⟩ := hdirectory loc
    rw [hcause] at h
    cases h
  | name dir name slash =>
    cases slash with
    | true =>
      obtain ⟨cause, hcause⟩ := hslash dir name
      rw [hcause] at h
      cases h
    | false => exact ⟨dir, name, hslot, h⟩

/-! ## Making a file -/

theorem createFile_eq_ok {made : Disk} (h : d.createFile p permissions = .ok (loc, number, made)) :
    loc ≠ [] ∧ d.get? loc = none ∧ number = d.freshNumber ∧
      made = d.insert loc (d.newFile permissions []) := by
  obtain ⟨dir, name, -, h⟩ :=
    exists_name_of_eq_ok h (fun _ => ⟨_, rfl⟩) (fun _ _ => ⟨_, rfl⟩)
  dsimp only at h
  cases hget : d.get? (name :: dir) with
  | some e =>
    rw [hget] at h
    cases h
  | none =>
    rw [hget] at h
    cases h
    exact ⟨List.cons_ne_nil name dir, hget, rfl, rfl⟩

theorem moveFile_eq_ok {source : Location} (h : d.moveFile source p = .ok after) :
    ∃ dir name e, d.resolve .toReplace p = .ok (.name dir name false) ∧ d.get? source = some e ∧
      (∀ mode, d.get? (name :: dir) ≠ some (.directory mode)) ∧
      after = (d.erase source).insert (name :: dir) e := by
  obtain ⟨dir, name, hslot, h⟩ :=
    exists_name_of_eq_ok h (fun _ => ⟨_, rfl⟩) (fun _ _ => ⟨_, rfl⟩)
  dsimp only at h
  cases hsource : d.get? source with
  | none =>
    rw [hsource] at h
    cases h
  | some e =>
    rw [hsource] at h
    refine ⟨dir, name, e, hslot, rfl, ?_, ?_⟩
    · intro mode hmode
      rw [hmode] at h
      cases h
    · cases htarget : d.get? (name :: dir) with
      | none =>
        rw [htarget] at h
        cases h
        rfl
      | some old =>
        rw [htarget] at h
        cases old with
        | directory mode => cases h
        | file n mode bytes =>
          cases h
          rfl
        | link target =>
          cases h
          rfl
        | device dev =>
          cases h
          rfl

/-! ## Opening -/

/-- What was opened: a file that loses its bytes, a device, or a file made where none was. -/
theorem openEmptied_eq_ok {handle : Handle} {opened : Disk}
    (h : d.openEmptied p = .ok (handle, opened)) :
    ∃ dir name, d.resolve .toOpen p = .ok (.name dir name false) ∧
      ((∃ number mode bytes, d.get? (name :: dir) = some (.file number mode bytes) ∧
          handle = .file number ∧ opened = d.changeFile number (Entry.withBytes [])) ∨
        (∃ dev, d.get? (name :: dir) = some (.device dev) ∧ handle = .device dev ∧ opened = d) ∨
        (d.get? (name :: dir) = none ∧ handle = .file d.freshNumber ∧
          opened = d.insert (name :: dir) (d.newFile openedPermissions []))) := by
  obtain ⟨dir, name, hslot, h⟩ :=
    exists_name_of_eq_ok h (fun _ => ⟨_, rfl⟩) (fun _ _ => ⟨_, rfl⟩)
  refine ⟨dir, name, hslot, ?_⟩
  dsimp only at h
  cases hget : d.get? (name :: dir) with
  | none =>
    rw [hget] at h
    cases h
    exact Or.inr (Or.inr ⟨rfl, rfl, rfl⟩)
  | some e =>
    rw [hget] at h
    cases e with
    | directory mode => cases h
    | link target => cases h
    | file number mode bytes =>
      cases h
      exact Or.inl ⟨number, mode, bytes, rfl, rfl, rfl⟩
    | device dev =>
      cases h
      exact Or.inr (Or.inl ⟨dev, rfl, rfl, rfl⟩)

/-- Only a device refuses bytes. -/
theorem writeAll_eq_error {handle : Handle} {bytes : List UInt8} {cause : SystemError}
    (h : d.writeAll handle bytes = .error cause) : ∃ dev, handle = .device dev := by
  cases handle with
  | file number => cases h
  | device dev => exact ⟨dev, rfl⟩

end TtyGuard.Disk
