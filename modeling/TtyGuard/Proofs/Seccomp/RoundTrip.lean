/-
# TtyGuard.Proofs.Seccomp.RoundTrip — reading code back is checking it

Reading divides bytes into records and looks an instruction up for each of them, before the
instructions are verified.  The first two steps undo laying code out and cannot fail on laid out
code, whether it is a program or not; so all that is left of reading is the verdict of `ofCode`.
-/
import Mathlib
import TtyGuard.Seccomp.Program

namespace TtyGuard.Seccomp.Program

open Bpf (Instruction Record)

/-- On the bytes of any code, reading is verifying. -/
theorem ofBytes_serialize (code : List Instruction) :
    ofBytes (Record.serialize (code.map Instruction.toRecord)) =
      (ofCode code).mapError .verify := by
  rw [ofBytes, Record.deserialize_serialize]
  show ((Instruction.ofRecordsFrom 0 (code.map Instruction.toRecord)).mapError
    ReadError.decode).bind _ = _
  rw [Instruction.ofRecordsFrom_map_toRecord]
  rfl

theorem ofBytes_serialize_eq_ok_iff {code : List Instruction} {p : Program} :
    ofBytes (Record.serialize (code.map Instruction.toRecord)) = .ok p ↔ p.code = code := by
  rw [ofBytes_serialize, ← ofCode_eq_ok_iff]
  cases ofCode code with
  | ok program => simp only [Except.mapError, Except.ok.injEq]
  | error e => simp only [Except.mapError, reduceCtorEq]

theorem ofBytes_serialize_eq_error_iff {code : List Instruction} {e : ReadError} :
    ofBytes (Record.serialize (code.map Instruction.toRecord)) = .error e ↔
      ∃ fault, e = .verify fault ∧ ofCode code = .error fault := by
  rw [ofBytes_serialize]
  cases ofCode code with
  | ok program => simp only [Except.mapError, reduceCtorEq, and_false, exists_false]
  | error fault =>
    constructor
    · rintro ⟨⟩
      exact ⟨fault, rfl, rfl⟩
    · rintro ⟨_, rfl, ⟨⟩⟩
      rfl

/-- **Reading bytes agrees with verifying code.**  The bytes of code, valid or not, are read as a
program with that code exactly if the code is one, are refused with the fault that verification
finds, and are never refused for their layout; the bytes of a program are read as that program. -/
theorem ofBytes_agrees_with_ofCode :
    (∀ code : List Instruction,
      let bytes := Record.serialize (code.map Instruction.toRecord)
      ((∃ p, ofBytes bytes = .ok p ∧ p.code = code) ↔ ∃ p, ofCode code = .ok p) ∧
      (∀ p, ofBytes bytes = .ok p ↔ ofCode code = .ok p) ∧
      (∀ fault, ofBytes bytes = .error (.verify fault) ↔ ofCode code = .error fault) ∧
      ∀ e, ofBytes bytes ≠ .error (.decode e)) ∧
    ∀ p : Program, ofBytes p.toBytes = .ok p := by
  constructor
  · intro code bytes
    have hok : ∀ p, ofBytes bytes = .ok p ↔ ofCode code = .ok p := fun p =>
      ofBytes_serialize_eq_ok_iff.trans ofCode_eq_ok_iff.symm
    refine ⟨⟨?_, ?_⟩, hok, fun fault => ⟨?_, ?_⟩, ?_⟩
    · rintro ⟨p, hread, -⟩
      exact ⟨p, (hok p).mp hread⟩
    · rintro ⟨p, hverified⟩
      exact ⟨p, (hok p).mpr hverified, ofCode_eq_ok_iff.mp hverified⟩
    · intro hread
      obtain ⟨_, ⟨⟩, hfault⟩ := ofBytes_serialize_eq_error_iff.mp hread
      exact hfault
    · intro hfault
      exact ofBytes_serialize_eq_error_iff.mpr ⟨fault, rfl, hfault⟩
    · intro e hread
      obtain ⟨_, ⟨⟩, _⟩ := ofBytes_serialize_eq_error_iff.mp hread
  · intro p
    exact ofBytes_serialize_eq_ok_iff.mpr rfl

end TtyGuard.Seccomp.Program
