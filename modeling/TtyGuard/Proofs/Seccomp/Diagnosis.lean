/-
# TtyGuard.Proofs.Seccomp.Diagnosis — what the outcome of an evaluation says of the code

Nothing is assumed of the code here: loads may be misaligned or far outside the record, jumps may
lead anywhere and the returns may be missing.  `HaltsWith` says of one instruction of the code that
an evaluation that comes to it ends there, and with which outcome.  `evaluate_eq_iff_haltsWith` says
that this is the only way to every outcome but one; `evaluate_eq_fellOffEnd_iff` is about that one,
which takes a load at the end of the code.  `evaluate_truthful` adds that an evaluation ends and
reads nothing outside the record.
-/
import TtyGuard.Proofs.Bpf.Ending
import TtyGuard.Proofs.Seccomp.Selection
import TtyGuard.Seccomp.Evaluation

namespace TtyGuard.Seccomp

open Bpf (Instruction State Fault branchSkip wordAt? wordSize)

variable {code : List Instruction} {call : Call} {s : State} {offset : UInt32}
  {outcome : Except EvaluationError Action}

/-! ## One instruction -/

/-- The instruction of `code` at the state's position ends the evaluation, and with this outcome: a
load that does not fit into the record, a jump whose branch for the accumulator leads out of the
code, or a return. -/
inductive HaltsWith (code : List Instruction) (s : State) :
    Except EvaluationError Action → Prop where
  | load {offset : UInt32} (hix : code[s.index]? = some (.load offset))
    (houtside : 64 < offset.toNat + 4) :
    HaltsWith code s (.error (.fault (.loadOutOfBounds s.index offset)))
  | jump {condition : Bpf.Condition} {k : UInt32} {jt jf : UInt8} {target : Nat}
    (hix : code[s.index]? = some (.jump condition k jt jf))
    (htarget : target = s.index + 1 + (if condition.holds s.acc k then jt else jf).toNat)
    (hout : code.length ≤ target) :
    HaltsWith code s (.error (.fault (.jumpOutOfBounds s.index target)))
  | unknown {k : UInt32} (hix : code[s.index]? = some (.ret k))
    (hunknown : k >>> 16 ∉ ([0x8000, 0x7fff, 0x0005] : List UInt32)) :
    HaltsWith code s (.error (.unknownAction ⟨k⟩))
  | known {k : UInt32} {action : Action} (hix : code[s.index]? = some (.ret k))
    (haction : Action.decode k = .ok action) : HaltsWith code s (.ok action)

theorem inBounds_word_iff :
    Call.inBounds offset (.ofNat wordSize) = true ↔ offset.toNat + 4 ≤ 64 :=
  decide_eq_true_iff

/-- A load reads the four bytes at its offset if the record has them, and nothing otherwise. -/
theorem wordAt?_toBytes_eq (call : Call) (offset : UInt32) :
    wordAt? call.toBytes offset =
      if offset.toNat + 4 ≤ 64 then
        some (.ofNat (leValue ((call.toBytes.drop offset.toNat).take 4)))
      else none := by
  rw [wordAt?, Call.length_toBytes]
  rfl

theorem wordAt?_toBytes_eq_none_iff (call : Call) :
    wordAt? call.toBytes offset = none ↔ 64 < offset.toNat + 4 := by
  rw [wordAt?_toBytes_eq, ite_eq_right_iff]
  simp only [reduceCtorEq, imp_false, Nat.not_le]

theorem verdictOf_eq_fault_iff {result : Except Fault UInt32} {fault : Fault} :
    verdictOf result = .error (.fault fault) ↔ result = .error fault := by
  constructor
  · intro h
    cases result with
    | error f =>
      cases h
      rfl
    | ok value =>
      -- A value is read as an action, or refused as one.
      rw [verdictOf] at h
      cases hdecode : Action.decode value with
      | ok action =>
        rw [hdecode] at h
        cases h
      | error e =>
        rw [hdecode] at h
        cases h
  · rintro rfl
    rfl

/-- A return ends with what its value selects. -/
theorem haltsWith_verdictOf_ok {k : UInt32} (hix : code[s.index]? = some (.ret k)) :
    HaltsWith code s (verdictOf (.ok k)) := by
  rw [verdictOf]
  cases hdecode : Action.decode k with
  | ok action => exact .known hix hdecode
  | error e =>
    obtain ⟨rfl, hunknown⟩ := Action.decode_eq_error_iff.mp hdecode
    exact .unknown hix hunknown

/-- Where the machine halts in front of an instruction, the instruction accounts for it. -/
theorem haltsWith_of_step {result : Except Fault UInt32} (hs : s.Located code)
    (hne : s.code ≠ []) (h : s.step call.toBytes = .halt result) :
    HaltsWith code s (verdictOf result) := by
  rcases State.step_halt_cases h with ⟨hnil, -⟩ | ⟨offset, rest, hcode, hword, rfl⟩ |
    ⟨condition, k, jt, jf, rest, hcode, hskip, rfl⟩ | ⟨k, rest, hcode, rfl⟩
  · exact absurd hnil hne
  · exact .load (hs.getElem? hcode) ((wordAt?_toBytes_eq_none_iff call).mp hword)
  · refine .jump (hs.getElem? hcode) rfl ?_
    have hlength : s.code.length = code.length - s.index := hs.length_eq
    rw [hcode, List.length_cons] at hlength
    show code.length ≤ s.index + 1 + branchSkip condition k jt jf s.acc
    omega
  · exact haltsWith_verdictOf_ok (hs.getElem? hcode)

/-- The machine halts at an instruction that ends the evaluation. -/
theorem HaltsWith.step (h : HaltsWith code s outcome) (hs : s.Located code) (call : Call) :
    ∃ result, s.step call.toBytes = .halt result ∧ verdictOf result = outcome := by
  cases h with
  | load hix houtside =>
    have hword := (wordAt?_toBytes_eq_none_iff call).mpr houtside
    exact ⟨_, (hs.step_eq hix).trans (State.step_load_fault hword), rfl⟩
  | @jump condition k jt jf target hix htarget hout =>
    have htarget : target = s.index + 1 + branchSkip condition k jt jf s.acc := htarget
    have hskip : (code.drop (s.index + 1)).length ≤ branchSkip condition k jt jf s.acc := by
      rw [List.length_drop]
      omega
    refine ⟨_, (hs.step_eq hix).trans (State.step_jump_fault hskip), ?_⟩
    rw [htarget, verdictOf]
  | unknown hix hunknown =>
    refine ⟨_, (hs.step_eq hix).trans (State.step_ret _), ?_⟩
    rw [verdictOf, Action.decode_eq_error_iff.mpr ⟨rfl, hunknown⟩]
    rfl
  | known hix haction =>
    refine ⟨_, (hs.step_eq hix).trans (State.step_ret _), ?_⟩
    rw [verdictOf, haction]
    rfl

/-! ## The whole evaluation -/

/-- An evaluation that comes to such an instruction ends there. -/
theorem HaltsWith.evaluate_eq (h : HaltsWith code s outcome)
    (hs : s ∈ (State.start code).visited call.toBytes) : evaluate code call = outcome := by
  have hlocated : s.Located code := State.located_of_mem_visited_start s hs
  obtain ⟨result, hstep, hresult⟩ := h.step hlocated call
  have hrun : Bpf.run code call.toBytes = result :=
    (State.run_and_suffix_of_mem_visited hs).1.trans (State.run_of_halt hstep)
  rw [evaluate, hrun, hresult]

/-- An evaluation that does not fall off the end comes to such an instruction. -/
theorem exists_haltsWith (hrun : Bpf.run code call.toBytes ≠ .error .fellOffEnd) :
    ∃ s ∈ (State.start code).visited call.toBytes, HaltsWith code s (evaluate code call) := by
  obtain ⟨s, hlast, hhalt⟩ := State.getLast?_visited hrun
  have hs : s ∈ (State.start code).visited call.toBytes := List.mem_of_getLast? hlast
  refine ⟨s, hs, ?_⟩
  exact haltsWith_of_step (State.located_of_mem_visited_start s hs)
    (State.code_ne_nil_of_mem_visited s hs) hhalt

theorem evaluate_eq_iff_haltsWith (houtcome : outcome ≠ .error (.fault .fellOffEnd)) :
    evaluate code call = outcome ↔
      ∃ s ∈ (State.start code).visited call.toBytes, HaltsWith code s outcome := by
  constructor
  · rintro rfl
    exact exists_haltsWith fun hrun => houtcome (verdictOf_eq_fault_iff.mpr hrun)
  · rintro ⟨s, hs, hhalts⟩
    exact hhalts.evaluate_eq hs

/-- A load that the machine has in front of it last is the last instruction of the code. -/
theorem code_eq_load_iff (hs : s.Located code) :
    s.code = [.load offset] ↔
      s.index + 1 = code.length ∧ code[s.index]? = some (.load offset) := by
  constructor
  · intro hcode
    have hlength : s.code.length = code.length - s.index := hs.length_eq
    rw [hcode, List.length_singleton] at hlength
    exact ⟨by omega, hs.getElem? hcode⟩
  · rintro ⟨hlast, hix⟩
    rw [hs.code_eq hix, hlast, List.drop_length]

theorem evaluate_eq_fellOffEnd_iff :
    evaluate code call = .error (.fault .fellOffEnd) ↔
      code = [] ∨ ∃ s ∈ (State.start code).visited call.toBytes, ∃ offset,
        s.index + 1 = code.length ∧ code[s.index]? = some (.load offset) ∧
          offset.toNat + 4 ≤ 64 := by
  have hword (offset : UInt32) :
      (∃ word, wordAt? call.toBytes offset = some word) ↔ offset.toNat + 4 ≤ 64 := by
    rw [← Option.ne_none_iff_exists', ne_eq, wordAt?_toBytes_eq_none_iff, Nat.not_lt]
  rw [evaluate, verdictOf_eq_fault_iff]
  show (State.start code).run call.toBytes = _ ↔ _
  rw [State.run_eq_fellOffEnd_iff]
  refine or_congr Iff.rfl (exists_congr fun s => and_congr_right fun hs => ?_)
  refine exists_congr fun offset => ?_
  have hlocated : s.Located code := State.located_of_mem_visited_start s hs
  rw [exists_and_left, hword, code_eq_load_iff hlocated, and_assoc]

/-- **Evaluations end, stay inside the record and tell the truth.**  No more instructions are
executed than there are.  A load that is come to reads the four bytes at its offset or ends the
evaluation, and it ends it exactly if some of them are missing.  An evaluation falls off the end
exactly if there is no code or it comes to a last instruction that loads from inside the record, and
it has any other outcome exactly if it comes to an instruction that accounts for it. -/
theorem evaluate_truthful (code : List Instruction) (call : Call) :
    let visited := (State.start code).visited call.toBytes
    visited.length ≤ code.length ∧
      (∀ s ∈ visited, ∀ offset, code[s.index]? = some (.load offset) →
        (offset.toNat + 4 ≤ 64 → s.step call.toBytes =
          .next ⟨s.index + 1, .ofNat (leValue ((call.toBytes.drop offset.toNat).take 4)),
            code.drop (s.index + 1)⟩) ∧
        (64 < offset.toNat + 4 →
          evaluate code call = .error (.fault (.loadOutOfBounds s.index offset)))) ∧
      (evaluate code call = .error (.fault .fellOffEnd) ↔
        code = [] ∨ ∃ s ∈ visited, ∃ offset, s.index + 1 = code.length ∧
          code[s.index]? = some (.load offset) ∧ offset.toNat + 4 ≤ 64) ∧
      (∀ outcome, outcome ≠ .error (.fault .fellOffEnd) →
        (evaluate code call = outcome ↔ ∃ s ∈ visited, HaltsWith code s outcome)) ∧
      ∀ index target, evaluate code call = .error (.fault (.jumpOutOfBounds index target)) →
        code.length ≤ target ∧ target ≤ index + 256 := by
  intro visited
  refine ⟨State.length_visited_le, fun s hs offset hix => ⟨fun hinside => ?_, fun houtside => ?_⟩,
    evaluate_eq_fellOffEnd_iff, fun outcome => evaluate_eq_iff_haltsWith, fun index target h => ?_⟩
  · rw [(State.located_of_mem_visited_start s hs).step_eq hix]
    exact State.step_load ((wordAt?_toBytes_eq call offset).trans (if_pos hinside))
  · exact (HaltsWith.load hix houtside).evaluate_eq hs
  · obtain ⟨s, hs, hhalts⟩ := (evaluate_eq_iff_haltsWith (by rintro ⟨⟩)).mp h
    cases hhalts with
    | @jump condition k jt jf _ hix htarget hout =>
      have hbyte : branchSkip condition k jt jf s.acc < 256 := UInt8.toNat_lt _
      have htarget : target = s.index + 1 + branchSkip condition k jt jf s.acc := htarget
      exact ⟨hout, by omega⟩

/-- The word that was loaded decides between a jump far out of the code and a load whose last byte
lies outside the record.  Behind a load that stands alone there is nothing, and a return of a value
whose high half is unknown accounts for its refusal. -/
theorem evaluate_truthful_far_jump :
    let code : List Instruction := [.load 4, .jump .equal 7 255 0, .load 61]
    let jumps : Call := { arch := 7 }
    let loads : Call := { arch := 8 }
    (evaluate code jumps = .error (.fault (.jumpOutOfBounds 1 257)) ∧
        code.length ≤ 257 ∧ 257 ≤ 1 + 256) ∧
      (code[2]? = some (.load 61) ∧ 64 < (61 : UInt32).toNat + 4 ∧
        evaluate code loads = .error (.fault (.loadOutOfBounds 2 61))) ∧
      evaluate [.load 60] loads = .error (.fault .fellOffEnd) ∧
      (∃ s ∈ (State.start [.ret 0x7ffc0000]).visited loads.toBytes,
        HaltsWith [.ret 0x7ffc0000] s (.error (.unknownAction ⟨0x7ffc0000⟩))) := by
  intro code jumps loads
  have hjump : evaluate code jumps = .error (.fault (.jumpOutOfBounds 1 257)) := by cbv
  have hreturned : Bpf.run [.ret 0x7ffc0000] loads.toBytes = .ok 0x7ffc0000 :=
    State.run_ret 0x7ffc0000
  have hunknown : evaluate [.ret 0x7ffc0000] loads = .error (.unknownAction ⟨0x7ffc0000⟩) := by
    rw [evaluate, hreturned]
    rfl
  have hreached : (⟨2, 8, [.load 61]⟩ : State) ∈ (State.start code).visited loads.toBytes := by
    decide +kernel
  have hstart : State.start [.load 60] ∈ (State.start [.load 60]).visited loads.toBytes := by
    decide +kernel
  obtain ⟨-, -, -, -, hbounds⟩ := evaluate_truthful code jumps
  obtain ⟨-, hloads, -, -, -⟩ := evaluate_truthful code loads
  obtain ⟨-, -, hfell, -, -⟩ := evaluate_truthful [.load 60] loads
  obtain ⟨-, -, -, houtcome, -⟩ := evaluate_truthful [.ret 0x7ffc0000] loads
  refine ⟨⟨hjump, hbounds 1 257 hjump⟩, ⟨rfl, by decide, (hloads _ hreached 61 rfl).2 (by decide)⟩,
    hfell.mpr (Or.inr ⟨_, hstart, 60, rfl, rfl, by decide⟩), ?_⟩
  exact (houtcome _ (by rintro ⟨⟩)).mp hunknown

end TtyGuard.Seccomp
