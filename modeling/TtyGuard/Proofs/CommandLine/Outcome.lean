/-
# TtyGuard.Proofs.CommandLine.Outcome — how a call of the program ends

There are four ends (`Ends`): a text was shown, the filter was written, it could not be written, or
the arguments were not understood.  The code tells them apart as far as the disk is concerned, and
whoever sees a zero has the whole filter where the output leads, or has asked for a text
(`run_all_or_nothing`).  What the log specification lets through plays no part in this.
-/
import TtyGuard.CommandLine.Run
import TtyGuard.Proofs.Artifact.Success
import TtyGuard.Proofs.CommandLine.Grammar
import TtyGuard.Proofs.Seccomp.Enforcement
import TtyGuard.Proofs.Seccomp.RoundTrip

namespace TtyGuard.CommandLine

open Artifact (Hindrance)
open Seccomp (Action Architecture Call Policy.verdict Program Injection.filter)

variable {native : Architecture} {d after : Disk} {draws args : List String} {o : Hindrance}
  {program : Program} {code : Nat}

/-! ## The native filter -/

/-- Whatever the native architecture is, there is a filter for it.  It is read back from its bytes,
and what was read gives the policy's verdict on every call. -/
theorem exists_native_filter (native : Architecture) :
    ∃ program, Injection.filter (.ofArchitecture native) = .ok program ∧
      Program.ofBytes program.toBytes = .ok program ∧
      ∀ call : Call, program.evaluate call = .ok (Policy.verdict (.ofArchitecture native) call) := by
  obtain ⟨program, hfilter, hcode⟩ := Seccomp.Injection.exists_filter (.ofArchitecture native)
  refine ⟨program, hfilter, Program.ofBytes_serialize_eq_ok_iff.mpr rfl, fun call => ?_⟩
  rw [Program.evaluate_of_run (Seccomp.Injection.run_of_code hcode call), Action.decode_encode]
  rfl

/-! ## Ends -/

/-- The ends of a call that writes this program, with its code and the disk after it. -/
inductive Ends (program : Program) (o : Hindrance) (d : Disk) (draws args : List String) :
    Nat → Disk → Prop
  | informed {s} (hasks : Asks args (.inform s)) : Ends program o d draws args 0 d
  | written {output} (hasks : Asks args (.write output))
      (hok : (Artifact.write o d draws (.ofText output) program.toBytes).result = .ok ()) :
      Ends program o d draws args 0
        (Artifact.write o d draws (.ofText output) program.toBytes).disk
  | failed {output e} (hasks : Asks args (.write output))
      (he : (Artifact.write o d draws (.ofText output) program.toBytes).result = .error e) :
      Ends program o d draws args 1 d
  | refused (hasks : ∀ r, ¬ Asks args r) : Ends program o d draws args 2 d

/-- Every call ends in one of the four ways. -/
theorem carryOut_ends (o : Hindrance) (d : Disk) (draws args : List String)
    (hfilter : Injection.filter (.ofArchitecture native) = .ok program) :
    Ends program o d draws args (carryOut native o d draws args).code
      (carryOut native o d draws args).disk := by
  unfold carryOut Task.ofArguments
  cases hread : read args with
  | error e => exact .refused fun r hasks => nomatch hread.symm.trans (read_eq_ok_iff.mpr hasks)
  | ok r =>
    have hasks : Asks args r := read_eq_ok_iff.mp hread
    cases r with
    | inform s => exact .informed hasks
    | write output =>
      simp only [Task.generate, hfilter]
      cases hresult : (Artifact.write o d draws (.ofText output) program.toBytes).result with
      | ok done => exact .written hasks hresult
      | error e =>
        rw [(Artifact.write_error hresult).1]
        exact .failed hasks hresult

namespace Ends

theorem code_cases (h : Ends program o d draws args code after) : code = 0 ∨ code = 1 ∨ code = 2 := by
  cases h with
  | informed | written => exact .inl rfl
  | failed => exact .inr (.inl rfl)
  | refused => exact .inr (.inr rfl)

/-- Unless the program ends with zero, nothing has changed. -/
theorem disk_eq (h : Ends program o d draws args code after) (hcode : code ≠ 0) : after = d := by
  cases h with
  | informed | written => exact absurd rfl hcode
  | failed | refused => rfl

theorem code_eq_one_iff (h : Ends program o d draws args code after) :
    code = 1 ↔ ∃ output, Asks args (.write output) ∧
      ∃ e, (Artifact.write o d draws (.ofText output) program.toBytes).result = .error e := by
  cases h with
  | informed hasks => exact ⟨nofun, fun ⟨_, hasks', _⟩ => nomatch hasks.unique hasks'⟩
  | written hasks hok =>
    refine ⟨nofun, fun ⟨_, hasks', e, he⟩ => ?_⟩
    cases hasks.unique hasks'
    exact nomatch hok.symm.trans he
  | failed hasks he => exact ⟨fun _ => ⟨_, hasks, _, he⟩, fun _ => rfl⟩
  | refused hasks => exact ⟨nofun, fun ⟨_, hasks', _⟩ => absurd hasks' (hasks _)⟩

theorem code_eq_two_iff (h : Ends program o d draws args code after) :
    code = 2 ↔ ∀ r, ¬ Asks args r := by
  cases h with
  | informed hasks | written hasks _ | failed hasks _ => exact ⟨nofun, fun h => absurd hasks (h _)⟩
  | refused hasks => exact ⟨fun _ => hasks, fun _ => rfl⟩

end Ends

/-! ## The outcome -/

/-- **All or nothing.**  On every architecture, a call ends with zero, one or two, and changes nothing
unless it ends with zero.  One means that a single output was asked for and cannot be written; two means that the
arguments ask for nothing.  With zero, a text was asked for and nothing has changed, or the output
was written and leads to a file with the bytes of the native filter, or to a device as before.  The
log specification has no influence. -/
theorem run_all_or_nothing (native : Architecture) (o : Hindrance) (d : Disk)
    (draws args : List String) (spec : Option String) (hd : d.WellFormed) :
    ∃ program, Injection.filter (.ofArchitecture native) = .ok program ∧
      Program.ofBytes program.toBytes = .ok program ∧
      (∀ call : Call, program.evaluate call = .ok (Policy.verdict (.ofArchitecture native) call)) ∧
      let written (output : String) := Artifact.write o d draws (.ofText output) program.toBytes
      let report := run native o d draws args spec
      (report.code = 0 ∨ report.code = 1 ∨ report.code = 2) ∧
      (report.code ≠ 0 → report.disk = d) ∧
      (report.code = 1 ↔ ∃ output, output ≠ "" ∧ Asks args (.write output) ∧
        ∃ e, (written output).result = .error e) ∧
      (report.code = 2 ↔ ∀ r, ¬ Asks args r) ∧
      (report.code = 0 →
        (∃ s, Asks args (.inform s)) ∧ report.disk = d ∨
        ∃ output, output ≠ "" ∧ Asks args (.write output) ∧ (written output).result = .ok () ∧
          report.disk = (written output).disk ∧
          ((∃ loc number mode, report.disk.leadsTo (.ofText output) =
              .ok (loc, .file number mode program.toBytes)) ∨
            report.disk = d ∧ ∃ loc dev, d.leadsTo (.ofText output) = .ok (loc, .device dev))) ∧
      ∀ spec', (run native o d draws args spec').code = report.code ∧
        (run native o d draws args spec').disk = report.disk := by
  obtain ⟨program, hfilter, hread, hverdict⟩ := exists_native_filter native
  refine ⟨program, hfilter, hread, hverdict, ?_⟩
  intro written report
  -- The log specification is read beside what is carried out.
  have hends : Ends program o d draws args report.code report.disk :=
    carryOut_ends o d draws args hfilter
  refine ⟨hends.code_cases, hends.disk_eq, hends.code_eq_one_iff.trans ?_, hends.code_eq_two_iff, ?_,
    fun _ => ⟨rfl, rfl⟩⟩
  · constructor
    · rintro ⟨output, hasks, he⟩
      exact ⟨output, hasks.ne_empty, hasks, he⟩
    · rintro ⟨output, -, hasks, he⟩
      exact ⟨output, hasks, he⟩
  · intro hcode
    generalize report.code = code, report.disk = after at hends hcode ⊢
    cases hends with
    | informed hasks => exact .inl ⟨⟨_, hasks⟩, rfl⟩
    | written hasks hok =>
      exact .inr ⟨_, hasks.ne_empty, hasks, hok, rfl, Artifact.leadsTo_of_write_ok hd hok⟩
    | failed | refused => cases hcode

/-- A new file in a working directory where nothing stands. -/
theorem run_all_or_nothing_new_file :
    let d : Disk := ⟨["w"], 0o022, [(["w"], .newDirectory)]⟩
    let report := run .aarch64 {} d ["abcdef"] ["f"] (some "off")
    d.WellFormed ∧ report.code = 0 ∧
      ∃ program, Injection.filter (.ofArchitecture .aarch64) = .ok program ∧ ∃ loc number mode,
        report.disk.leadsTo (.ofText "f") = .ok (loc, .file number mode program.toBytes) := by
  intro d report
  have hd : d.WellFormed := by decide
  have hasks : Asks ["f"] (.write "f") := .write (.inr (by decide)) (by decide)
  have hdestination : Artifact.destination d (.ofText "f") = .replace (.ofText "f") := by cbv
  have hfile : (Path.ofText "f").fileName? = some "f" := by cbv
  have hpath : Artifact.stagedPath d (.ofText "f") "f" "abcdef" =
      ⟨"", ["w", ".", ".f.abcdef.tmp"]⟩ := by cbv
  have hslot : Disk.Reaches d .toReplace Disk.maxLinks [] [.down "w", .here, .down ".f.abcdef.tmp"]
      (.name ["w"] ".f.abcdef.tmp" false) :=
    .enter rfl rfl rfl (.here (.stop rfl rfl (by rintro ⟨⟩)))
  obtain ⟨hroom, hfresh⟩ :
      Artifact.HasRoom d ["abcdef"] (.ofText "f") ∧ Artifact.Fresh d ["abcdef"] (.ofText "f") :=
    Artifact.hasRoom_and_fresh hdestination hfile (by decide) (by decide) hpath (by decide) hslot
      rfl
  have hok (bytes : List UInt8) :
      (Artifact.write {} d ["abcdef"] (.ofText "f") bytes).result = .ok () :=
    (Artifact.write_of_reaches hd (by decide) hfresh hroom (.stop rfl rfl (by rintro _ _ ⟨⟩))
      (by decide) (.inl rfl)).1
  obtain ⟨program, hfilter, -, -, hcodes, -, hone, htwo, hzero, -⟩ :=
    run_all_or_nothing .aarch64 {} d ["abcdef"] ["f"] (some "off") hd
  have hcode : report.code = 0 := by
    rcases hcodes with h | h | h
    · exact h
    · obtain ⟨output, -, hasks', e, he⟩ := hone.mp h
      cases hasks.unique hasks'
      cases (hok _).symm.trans he
    · exact absurd hasks (htwo.mp h _)
  refine ⟨hd, hcode, program, hfilter, ?_⟩
  rcases hzero hcode with ⟨⟨s, hasks'⟩, -⟩ | ⟨output, -, hasks', -, -, hleads⟩
  · cases hasks.unique hasks'
  · cases hasks.unique hasks'
    have hnowhere : d.leadsTo (.ofText "f") = .error .notFound := by cbv
    refine hleads.resolve_right ?_
    rintro ⟨-, loc, dev, hdevice⟩
    cases hnowhere.symm.trans hdevice

end TtyGuard.CommandLine
