/-
# TtyGuard.Proofs.Seccomp.Reading — which bytes are a program, and what is wrong with the others

Bytes are refused at three levels, and a fault of an earlier level hides those of a later one: the
length, then the records in order, then the program as a whole.  `ofBytes_of_truncated`,
`ofBytes_of_malformed` and `ofBytes_of_records` are one lemma for each level.  What is accepted is
the canonical form of the program read (`toBytes_of_ofBytes`), so that no two byte lists are read as
the same program.
-/
import TtyGuard.Proofs.Bpf.Decoding
import TtyGuard.Proofs.Seccomp.RoundTrip

namespace TtyGuard.Seccomp.Program

open Bpf (Instruction Record DecodeError)

variable {bytes : List UInt8} {code : List Instruction} {p : Program}

/-! ## The three levels -/

theorem ofBytes_of_truncated (h : bytes.length % Record.byteSize ≠ 0) :
    ofBytes bytes = .error (.decode (.truncatedRecord bytes.length)) := by
  rw [ofBytes, Record.deserialize, if_neg h]
  rfl

theorem ofBytes_of_decode_error {e : DecodeError} (hlength : bytes.length % Record.byteSize = 0)
    (h : Instruction.ofRecordsFrom 0 (Record.wholeRecords bytes) = .error e) :
    ofBytes bytes = .error (.decode e) := by
  rw [ofBytes, Record.deserialize, if_pos hlength]
  show ((Instruction.ofRecordsFrom 0 (Record.wholeRecords bytes)).mapError ReadError.decode).bind _
    = _
  rw [h]
  rfl

/-- The malformed record of least position is reported, whatever stands behind it. -/
theorem ofBytes_of_malformed {i : Nat} {r : Record} (hlength : bytes.length % Record.byteSize = 0)
    (hr : Record.at? bytes i = some r) (hmalformed : r.Malformed)
    (hbefore : ∀ j s, j < i → Record.at? bytes j = some s → ¬ s.Malformed) :
    ofBytes bytes = .error (.decode (r.complaint i)) := by
  simp only [← Record.getElem?_wholeRecords] at hr hbefore
  have hfirst : Instruction.ofRecordsFrom 0 (Record.wholeRecords bytes) =
      .error (r.complaint (0 + i)) :=
    Instruction.ofRecordsFrom_of_malformed hr hmalformed hbefore
  rw [Nat.zero_add] at hfirst
  exact ofBytes_of_decode_error hlength hfirst

/-- Bytes that are the records of code are judged as that code. -/
theorem ofBytes_of_records (hlength : bytes.length % Record.byteSize = 0)
    (hcode : code.map Instruction.toRecord = Record.wholeRecords bytes) :
    ofBytes bytes = (ofCode code).mapError .verify := by
  have hbytes : Record.serialize (code.map Instruction.toRecord) = bytes := by
    rw [hcode]
    exact Record.serialize_wholeRecords bytes hlength
  rw [← hbytes]
  exact ofBytes_serialize code

/-- Whole records of which none is malformed are the records of some code. -/
theorem exists_code_of_forall (h : ∀ i r, Record.at? bytes i = some r → ¬ r.Malformed) :
    ∃ code : List Instruction, code.map Instruction.toRecord = Record.wholeRecords bytes := by
  have hrecords : ∀ r ∈ Record.wholeRecords bytes, ¬ r.Malformed := by
    intro r hr
    obtain ⟨i, hi⟩ := List.mem_iff_getElem?.mp hr
    rw [Record.getElem?_wholeRecords] at hi
    exact h i r hi
  obtain ⟨code, hcode⟩ := Instruction.exists_ofRecordsFrom 0 hrecords
  exact ⟨code, Instruction.map_toRecord_of_ofRecordsFrom hcode⟩

/-! ## What is accepted -/

/-- A program is only read from its own bytes. -/
theorem toBytes_of_ofBytes (h : ofBytes bytes = .ok p) : p.toBytes = bytes := by
  have hlength : bytes.length % Record.byteSize = 0 := by
    refine Decidable.byContradiction fun htruncated => ?_
    rw [ofBytes_of_truncated htruncated] at h
    cases h
  cases hcode : Instruction.ofRecordsFrom 0 (Record.wholeRecords bytes) with
  | error e =>
    rw [ofBytes_of_decode_error hlength hcode] at h
    cases h
  | ok code =>
    have hrecords := Instruction.map_toRecord_of_ofRecordsFrom hcode
    rw [ofBytes_of_records hlength hrecords] at h
    cases hverified : ofCode code with
    | error e =>
      rw [hverified] at h
      cases h
    | ok q =>
      rw [hverified] at h
      cases h
      rw [toBytes, toRecords, ofCode_eq_ok_iff.mp hverified, hrecords]
      exact Record.serialize_wholeRecords bytes hlength

theorem length_toBytes (p : Program) : p.toBytes.length = p.length * 8 := by
  rw [toBytes, Record.length_serialize, toRecords, List.length_map, Nat.mul_comm]
  rfl

/-- **Reading accepts exactly the canonical form and reports the first fault.**  A length that is no
multiple of eight comes first, whatever the bytes are; then the malformed record of least position,
by its code if that is foreign and by its branch offsets otherwise; then what verification says of
the instructions, one for each record.  The bytes that are accepted are the bytes of the program
read, and of no other program. -/
theorem ofBytes_reports_first_fault (bytes : List UInt8) :
    (bytes.length % 8 ≠ 0 → ofBytes bytes = .error (.decode (.truncatedRecord bytes.length))) ∧
    (bytes.length % 8 = 0 →
      (∀ i r, Record.at? bytes i = some r → r.Malformed →
        (∀ j s, j < i → Record.at? bytes j = some s → ¬ s.Malformed) →
        ofBytes bytes = .error (.decode
          (if r.code ∉ Record.knownCodes then .unknownOpcode i r.code
            else .unexpectedJumpOffsets i r.jt r.jf))) ∧
      ((∀ i r, Record.at? bytes i = some r → ¬ r.Malformed) →
        ∃ code : List Instruction,
          (∀ i, (code[i]?).map Instruction.toRecord = Record.at? bytes i) ∧
          ofBytes bytes = (ofCode code).mapError .verify)) ∧
    (∀ p, ofBytes bytes = .ok p →
      p.toBytes = bytes ∧ p.length * 8 = bytes.length ∧
      ∀ other, ofBytes other = .ok p → other = bytes) ∧
    ((∃ p, ofBytes bytes = .ok p) ↔ ∃ p : Program, p.toBytes = bytes) := by
  refine ⟨ofBytes_of_truncated, fun hlength => ⟨?_, ?_⟩, ?_, ?_, ?_⟩
  · intro i r hr hmalformed hbefore
    rw [ofBytes_of_malformed hlength hr hmalformed hbefore, Record.complaint, ite_not]
  · intro hsound
    obtain ⟨code, hcode⟩ := exists_code_of_forall hsound
    refine ⟨code, fun i => ?_, ofBytes_of_records hlength hcode⟩
    rw [← List.getElem?_map, hcode, Record.getElem?_wholeRecords]
  · intro p hp
    have hbytes : p.toBytes = bytes := toBytes_of_ofBytes hp
    refine ⟨hbytes, ?_, fun other hother => ?_⟩
    · rw [← hbytes, length_toBytes]
    · rw [← hbytes, toBytes_of_ofBytes hother]
  · rintro ⟨p, hp⟩
    exact ⟨p, toBytes_of_ofBytes hp⟩
  · rintro ⟨p, rfl⟩
    exact ⟨p, ofBytes_serialize_eq_ok_iff.mpr rfl⟩

/-- A load, a return with an offset and a record of a foreign code: the return is reported, although
the list would also end without a return. -/
theorem ofBytes_reports_first_fault_return :
    let bytes : List UInt8 :=
      [0x20, 0, 0, 0, 4, 0, 0, 0, 0x06, 0, 1, 0, 0, 0, 0, 0, 0x28, 0, 0, 0, 0, 0, 0, 0]
    bytes.length % 8 = 0 ∧ Record.at? bytes 1 = some ⟨0x06, 1, 0, 0⟩ ∧
      ofBytes bytes = .error (.decode (.unexpectedJumpOffsets 1 1 0)) := by
  intro bytes
  have hrecord : Record.at? bytes 1 = some ⟨0x06, 1, 0, 0⟩ := rfl
  have hbefore : ∀ j s, j < 1 → Record.at? bytes j = some s → ¬ s.Malformed := by
    intro j s hj hs
    obtain rfl : j = 0 := by omega
    cases hs
    decide
  have hlength : bytes.length % 8 = 0 := by decide
  have hfirst := ((ofBytes_reports_first_fault bytes).2.1 hlength).1 1 _ hrecord (by decide) hbefore
  exact ⟨hlength, hrecord, hfirst⟩

end TtyGuard.Seccomp.Program
