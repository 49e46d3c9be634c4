/-
# TtyGuard.Proofs.Artifact.Failure — a failed write leaves no trace

A write ends in one of two ways, and `replace_cases` and `writeInPlace_cases` say so for the two
ways of writing: with an error that names the path as it was given, on the disk as it was, or well,
and then no step was refused and what was done to the disk is known.  `write_error_leaves_no_trace`
puts the two together, for every disk, path and bytes and for whatever stops the write.

What carries it is that the staged file is new: it stands where nothing stood, so that it can be
taken away again (`erase_insert`), and its number is no other file's, so that filling it changes
nothing else (`fill_staged`).
-/
import Mathlib
import TtyGuard.Artifact
import TtyGuard.Proofs.Disk.Operations

namespace TtyGuard.Artifact

variable {o : Hindrance} {d staged : Disk} {draws : List String} {p target path : Path}
  {paths : List Path} {bytes : List UInt8} {loc : Location} {number : Nat}

/-! ## Staging -/

/-- The staged file was made at one of the paths. -/
theorem createFile_of_stage (h : stage d paths = .ok (path, loc, number, staged)) :
    path ∈ paths ∧ d.createFile path stagedPermissions = .ok (loc, number, staged) := by
  induction paths with
  | nil => cases h
  | cons first paths ih =>
    rw [stage] at h
    cases hmade : d.createFile first stagedPermissions with
    | ok made =>
      rw [hmade] at h
      cases h
      exact ⟨List.mem_cons_self, hmade⟩
    | error cause =>
      rw [hmade] at h
      cases cause with
      | alreadyExists =>
        obtain ⟨hpath, hmade⟩ := ih h
        exact ⟨List.mem_cons_of_mem _ hpath, hmade⟩
      | _ => cases h

/-- The staged file is empty and new, whichever of the paths it took. -/
theorem stage_eq_ok (h : stage d paths = .ok (path, loc, number, staged)) :
    loc ≠ [] ∧ d.get? loc = none ∧ number = d.freshNumber ∧
      staged = d.insert loc (d.newFile stagedPermissions []) :=
  Disk.createFile_eq_ok (createFile_of_stage h).2

/-- However many bytes the staged file takes, nothing else changes, and it takes all of them unless
that is refused. -/
theorem fill_staged (o : Hindrance) (d : Disk) (loc : Location) (bytes : List UInt8) :
    let filled := fill o (d.insert loc (d.newFile stagedPermissions [])) d.freshNumber bytes
    ∃ taken, filled.1 = d.insert loc (d.newFile stagedPermissions taken) ∧
      (filled.2 = none → o.filling = none ∧ taken = bytes) := by
  unfold fill
  cases o.filling with
  | none => exact ⟨bytes, d.write_insert_newFile loc _ bytes, fun _ => ⟨rfl, rfl⟩⟩
  | some limit =>
    obtain ⟨most, cause⟩ := limit
    exact ⟨bytes.take most, d.write_insert_newFile loc _ _, nofun⟩

theorem attempt_eq_ok {α : Type} {refusal : Option SystemError} {step : Except SystemError α}
    {a : α} (h : attempt refusal step = .ok a) : refusal = none ∧ step = .ok a := by
  cases refusal with
  | none => exact ⟨rfl, h⟩
  | some cause => cases h

/-- None of the steps on the way to a destination is refused. -/
def Hindrance.Permits (o : Hindrance) : Destination → Prop
  | .replace _ => o.making = none ∧ o.filling = none ∧ o.syncing = none ∧ o.moving = none
  | .inPlace => o.opening = none

/-! ## How a write ends -/

/-- A replacement that fails has no effect, and one that succeeds was refused no step and has moved
a new file with all bytes to the target. -/
theorem replace_cases (o : Hindrance) (d : Disk) (draws : List String) (p target : Path)
    (bytes : List UInt8) :
    (∃ e, (replace o d draws p target bytes).result = .error e ∧ e.path = p ∧
        (replace o d draws p target bytes).disk = d) ∨
      (replace o d draws p target bytes).result = .ok () ∧ o.Permits (.replace target) ∧
        ∃ loc, loc ≠ [] ∧ d.get? loc = none ∧
          (d.insert loc (d.newFile stagedPermissions bytes)).moveFile loc target =
            .ok (replace o d draws p target bytes).disk := by
  unfold replace
  cases target.fileName? with
  | none => exact .inl ⟨_, rfl, rfl, rfl⟩
  | some name =>
    dsimp only
    cases hstaged : attempt o.making (stage d (draws.map (stagedPath d target name))) with
    | error cause => exact .inl ⟨_, rfl, rfl, rfl⟩
    | ok made =>
      obtain ⟨path, loc, number, staged⟩ := made
      obtain ⟨hmaking, hmade⟩ := attempt_eq_ok hstaged
      obtain ⟨hloc, hfree, rfl, rfl⟩ := stage_eq_ok hmade
      obtain ⟨taken, hfilled, htaken⟩ := fill_staged o d loc bytes
      -- The disk differs by the staged file alone, and from here on every error takes that away.
      have hundo : (d.insert loc (d.newFile stagedPermissions taken)).erase loc = d :=
        d.erase_insert _ hfree
      dsimp only
      generalize fill o _ d.freshNumber bytes = outcome at *
      obtain ⟨filled, stop⟩ := outcome
      obtain rfl : filled = d.insert loc (d.newFile stagedPermissions taken) := hfilled
      cases stop with
      | some cause => exact .inl ⟨_, rfl, rfl, hundo⟩
      | none =>
        dsimp only
        obtain ⟨hfilling, rfl⟩ := htaken rfl
        cases hsynced : attempt o.syncing (.ok ()) with
        | error cause => exact .inl ⟨_, rfl, rfl, hundo⟩
        | ok done =>
          dsimp only
          obtain ⟨hsyncing, -⟩ := attempt_eq_ok hsynced
          cases hmoved : attempt o.moving
              ((d.insert loc (d.newFile stagedPermissions taken)).moveFile loc target) with
          | error cause => exact .inl ⟨_, rfl, rfl, hundo⟩
          | ok after =>
            obtain ⟨hmoving, hafter⟩ := attempt_eq_ok hmoved
            exact .inr ⟨rfl, ⟨hmaking, hfilling, hsyncing, hmoving⟩, loc, hloc, hfree, hafter⟩

/-- Writing in place fails before anything is changed, or was not refused to open the path and has
written there: only a device refuses bytes. -/
theorem writeInPlace_cases (o : Hindrance) (d : Disk) (p : Path) (bytes : List UInt8) :
    (∃ e, (writeInPlace o d p bytes).result = .error e ∧ e.path = p ∧
        (writeInPlace o d p bytes).disk = d) ∨
      (writeInPlace o d p bytes).result = .ok () ∧ o.Permits .inPlace ∧
        ∃ handle opened, d.openEmptied p = .ok (handle, opened) ∧
          opened.writeAll handle bytes = .ok (writeInPlace o d p bytes).disk := by
  unfold writeInPlace
  cases hopened : attempt o.opening (d.openEmptied p) with
  | error cause => exact .inl ⟨_, rfl, rfl, rfl⟩
  | ok pair =>
    obtain ⟨handle, opened⟩ := pair
    obtain ⟨hopening, hopen⟩ := attempt_eq_ok hopened
    dsimp only
    cases hwritten : opened.writeAll handle bytes with
    | ok after => exact .inr ⟨rfl, hopening, handle, opened, hopen, hwritten⟩
    | error cause =>
      refine .inl ⟨_, rfl, rfl, ?_⟩
      -- Opening a device changes nothing, and nothing else refuses bytes.
      obtain ⟨dev, rfl⟩ := Disk.writeAll_eq_error hwritten
      obtain ⟨dir, name, -, hfile | hdevice | hnew⟩ := Disk.openEmptied_eq_ok hopen
      · obtain ⟨number, mode, old, -, hhandle, -⟩ := hfile
        cases hhandle
      · obtain ⟨dev', -, -, hsame⟩ := hdevice
        exact hsame
      · obtain ⟨-, hhandle, -⟩ := hnew
        cases hhandle

theorem write_error {e : WriteError} (h : (write o d draws p bytes).result = .error e) :
    (write o d draws p bytes).disk = d ∧ e.path = p := by
  unfold write at h ⊢
  cases hdestination : destination d p with
  | inPlace =>
    rw [hdestination] at h
    obtain ⟨e', he, hpath, hdisk⟩ | ⟨hok, -⟩ := writeInPlace_cases o d p bytes
    · cases he.symm.trans h
      exact ⟨hdisk, hpath⟩
    · cases hok.symm.trans h
  | replace target =>
    rw [hdestination] at h
    obtain ⟨e', he, hpath, hdisk⟩ | ⟨hok, -⟩ := replace_cases o d draws p target bytes
    · cases he.symm.trans h
      exact ⟨hdisk, hpath⟩
    · cases hok.symm.trans h

/-- Whatever the path and whatever stops the write: when it fails, the disk is what it was, without
the staged file, and the error names the path as it was given. -/
theorem write_error_leaves_no_trace (o : Hindrance) (d : Disk) (draws : List String)
    (text : String) (bytes : List UInt8) (e : WriteError)
    (h : (write o d draws (.ofText text) bytes).result = .error e) :
    (write o d draws (.ofText text) bytes).disk = d ∧ e.path.text = text := by
  obtain ⟨hdisk, hpath⟩ := write_error h
  exact ⟨hdisk, hpath ▸ Path.text_ofText text⟩

/-- Behind the link there is a directory: the staged file is made beside it, cannot take its place,
and is gone again. -/
theorem write_error_leaves_no_trace_directory :
    let d : Disk := ⟨["w"], 0o022, [(["w"], .newDirectory), (["f", "w"], .directory 0o700),
      (["l", "w"], .link (.ofText "f/"))]⟩
    let outcome := write {} d ["a"] (.ofText "l") [6, 0, 0, 0]
    outcome.result = .error (.cannotPersist (.ofText "l") .isADirectory) ∧ outcome.disk = d ∧
      (WriteError.cannotPersist (.ofText "l") .isADirectory).path.text = "l" := by
  intro d outcome
  have hdestination : destination d (.ofText "l") = .replace ⟨"", ["w", "f"]⟩ := by cbv
  have hstaged : d.createFile ⟨"", ["w", ".f.a.tmp"]⟩ stagedPermissions =
      .ok ([".f.a.tmp", "w"], d.freshNumber,
        d.insert [".f.a.tmp", "w"] (d.newFile stagedPermissions [])) := by
    have hslot : d.walk .toReplace Disk.maxLinks [] [.down "w", .down ".f.a.tmp"] =
        .ok (.name ["w"] ".f.a.tmp" false) := by cbv
    show (d.walk .toReplace Disk.maxLinks [] [.down "w", .down ".f.a.tmp"] >>= _) = _
    rw [hslot]
    rfl
  have hmoved : (d.insert [".f.a.tmp", "w"] (d.newFile stagedPermissions [6, 0, 0, 0])).moveFile
      [".f.a.tmp", "w"] ⟨"", ["w", "f"]⟩ = .error .isADirectory := by
    have hslot : (d.insert [".f.a.tmp", "w"] (d.newFile stagedPermissions [6, 0, 0, 0])).resolve
        .toReplace ⟨"", ["w", "f"]⟩ = .ok (.name ["w"] "f" false) := by cbv
    rw [Disk.moveFile, hslot]
    rfl
  have hresult : outcome.result = .error (.cannotPersist (.ofText "l") .isADirectory) := by
    have hname : (⟨"", ["w", "f"]⟩ : Path).fileName? = some "f" := rfl
    have hpath : stagedPath d ⟨"", ["w", "f"]⟩ "f" "a" = ⟨"", ["w", ".f.a.tmp"]⟩ := rfl
    unfold outcome write
    simp only [hdestination, replace, hname, List.map_cons, hpath, stage, hstaged, attempt,
      Option.elim_none, fill, Disk.write_insert_newFile, hmoved]
  exact ⟨hresult, write_error_leaves_no_trace {} d ["a"] "l" [6, 0, 0, 0] _ hresult⟩

end TtyGuard.Artifact
