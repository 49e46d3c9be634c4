/-
# TtyGuard.Proofs.Seccomp.Verification — a verified program always ends in a return

The verifier looks at each instruction once, on its own: `fault?_eq_none_iff` reads its acceptance
as `WellFormed`, a condition on the code without runs.  From it follows progress, `WellFormed.step`:
wherever a run of such code stands, it goes on inside the code or returns.  The checks that carry
this are the further branch of each jump, the bounds of each load, and a return at the end, which
leaves every load a successor.
-/
import TtyGuard.Proofs.Bpf.Execution
import TtyGuard.Proofs.Seccomp.Diagnosis
import TtyGuard.Seccomp.Program

namespace TtyGuard.Seccomp

open Bpf (Instruction State branchSkip wordAt? wordSize)
open Bpf.Statement (endsInReturn)

variable {code rest : List Instruction} {call : Call} {s : State}

/-! ## What the verifier accepts -/

/-- Code that the verifier finds no fault in, said without the verifier's order of checks. -/
structure WellFormed (code : List Instruction) : Prop where
  ne_nil : code ≠ []
  length_le : code.length ≤ maxInstructions
  instruction : ∀ i ix, code[i]? = some ix → instructionFault? code.length i ix = none
  endsInReturn : endsInReturn code = true

/-- The search looks at the instruction in front, and then at the others. -/
theorem firstFault?_cons (length index : Nat) (ix : Instruction) (rest : List Instruction) :
    firstFault? length index (ix :: rest) =
      (instructionFault? length index ix).or (firstFault? length (index + 1) rest) := by
  cases h : instructionFault? length index ix with
  | none => simp only [firstFault?, List.zipIdx_cons, List.findSome?_cons, h, Option.none_or]
  | some e => simp only [firstFault?, List.zipIdx_cons, List.findSome?_cons, h, Option.some_or]

theorem firstFault?_eq_none_iff (code : List Instruction) (length index : Nat) :
    firstFault? length index code = none ↔
      ∀ i ix, code[i]? = some ix → instructionFault? length (index + i) ix = none := by
  rw [firstFault?, List.findSome?_eq_none_iff]
  constructor
  · intro h i ix hix
    exact h (ix, index + i) (List.mk_add_mem_zipIdx_iff_getElem?.mpr hix)
  · rintro h ⟨ix, j⟩ hmem
    obtain ⟨hle, hix⟩ := List.mem_zipIdx_iff_le_and_getElem?_sub.mp hmem
    have hj : index + (j - index) = j := Nat.add_sub_cancel' hle
    exact hj ▸ h (j - index) ix hix

/-- The verifier accepts exactly the well-formed code. -/
theorem fault?_eq_none_iff : fault? code = none ↔ WellFormed code := by
  have hfirst := firstFault?_eq_none_iff code code.length 0
  simp only [Nat.zero_add] at hfirst
  rw [fault?]
  constructor
  · intro h
    split at h
    · cases h
    next hnil =>
    split at h
    · cases h
    next hlength =>
    split at h
    · cases h
    next hnone =>
    split at h
    · next hreturn =>
      exact ⟨by simpa using hnil, Nat.not_lt.mp hlength, hfirst.mp hnone, hreturn⟩
    · cases h
  · intro h
    rw [if_neg (by simpa using h.ne_nil), if_neg (Nat.not_lt.mpr h.length_le),
      hfirst.mpr h.instruction]
    exact if_pos h.endsInReturn

/-! ## The check of one instruction -/

section

variable {length index : Nat} {offset : UInt32} {condition : Bpf.Condition} {k : UInt32}
  {jt jf : UInt8}

theorem instructionFault?_load_eq_none_iff :
    instructionFault? length index (.load offset) = none ↔
      offset.toNat % wordSize = 0 ∧ Call.inBounds offset (.ofNat wordSize) = true := by
  simp [instructionFault?]

theorem instructionFault?_jump_eq_none_iff :
    instructionFault? length index (.jump condition k jt jf) = none ↔
      index + 1 + (max jt jf).toNat < length := by
  simp [instructionFault?]

theorem toNat_max (a b : UInt8) : (max a b).toNat = max a.toNat b.toNat := by
  have hmax : max a b = if a ≤ b then b else a := rfl
  rw [hmax]
  split
  · next h =>
    rw [UInt8.le_iff_toNat_le] at h
    omega
  · next h =>
    rw [UInt8.le_iff_toNat_le] at h
    omega

/-! ## What it means for a run -/

/-- A load without a fault reads a word of every call. -/
theorem wordAt?_of_instructionFault? (h : instructionFault? length index (.load offset) = none)
    (call : Call) : ∃ word, wordAt? call.toBytes offset = some word := by
  obtain ⟨-, hbounds⟩ := instructionFault?_load_eq_none_iff.mp h
  exact ⟨_, (wordAt?_toBytes_eq call offset).trans (if_pos (inBounds_word_iff.mp hbounds))⟩

theorem branchSkip_le {acc : UInt32} : branchSkip condition k jt jf acc ≤ (max jt jf).toNat := by
  rw [branchSkip, toNat_max]
  split
  · exact Nat.le_max_left _ _
  · exact Nat.le_max_right _ _

/-- A jump without a fault stays inside, whichever branch it takes. -/
theorem branchSkip_of_instructionFault? {acc : UInt32}
    (h : instructionFault? length index (.jump condition k jt jf) = none) :
    index + 1 + branchSkip condition k jt jf acc < length :=
  Nat.lt_of_le_of_lt (Nat.add_le_add_left branchSkip_le _) (instructionFault?_jump_eq_none_iff.mp h)

end

/-! ## Progress -/

/-- A part of the code that is left keeps the return at its end. -/
theorem WellFormed.endsInReturn_of_located (hcode : WellFormed code) (hs : s.Located code)
    (hne : s.code ≠ []) : Bpf.Statement.endsInReturn s.code = true := by
  have hlt : s.index < code.length := hs.index_lt hne
  rw [Bpf.Statement.endsInReturn, hs, List.getLast?_drop, if_neg (Nat.not_le.mpr hlt)]
  exact hcode.endsInReturn

/-- **Progress.**  A run of well-formed code that stands in front of an instruction goes on to
another one, or returns. -/
theorem WellFormed.step (hcode : WellFormed code) (hs : s.Located code) (hne : s.code ≠ [])
    (call : Call) :
    (∃ t, s.step call.toBytes = .next t ∧ t.code ≠ []) ∨
      ∃ k, s.step call.toBytes = .halt (.ok k) := by
  have hreturn := hcode.endsInReturn_of_located hs hne
  have hlength : s.code.length = code.length - s.index := hs.length_eq
  obtain ⟨index, acc, left⟩ := s
  match left with
  | [] => exact absurd rfl hne
  | .load offset :: rest =>
    have hfault := hcode.instruction _ _ (hs.getElem? rfl)
    obtain ⟨word, hword⟩ := wordAt?_of_instructionFault? hfault call
    refine Or.inl ⟨_, State.step_load hword, ?_⟩
    -- A load that stood last would be the end of the code.
    rintro rfl
    cases hreturn
  | .jump condition k jt jf :: rest =>
    have hfault := hcode.instruction _ _ (hs.getElem? rfl)
    have htarget : index + 1 + branchSkip condition k jt jf acc < code.length :=
      branchSkip_of_instructionFault? hfault
    have hskip : branchSkip condition k jt jf acc < rest.length := by
      simp only [List.length_cons] at hlength
      omega
    refine Or.inl ⟨_, State.step_jump hskip, ?_⟩
    show rest.drop _ ≠ []
    rw [ne_eq, List.drop_eq_nil_iff]
    omega
  | .ret k :: rest => exact Or.inr ⟨k, State.step_ret k⟩

/-- Every run inside well-formed code returns a value. -/
theorem WellFormed.run (hcode : WellFormed code) (hs : s.Located code) (hne : s.code ≠ [])
    (call : Call) : ∃ k, s.run call.toBytes = .ok k := by
  induction s using State.run_induction call.toBytes with
  | halt s result h =>
    rcases hcode.step hs hne call with ⟨t, ht, -⟩ | ⟨k, hk⟩
    · rw [h] at ht
      cases ht
    · exact ⟨k, State.run_of_halt hk⟩
  | next s t h ih =>
    rw [State.run_of_next h]
    rcases hcode.step hs hne call with ⟨u, hu, hu'⟩ | ⟨k, hk⟩
    · rw [h] at hu
      cases hu
      exact ih (hs.step h) hu'
    · rw [h] at hk
      cases hk

namespace Program

theorem wellFormed (p : Program) : WellFormed p.code := fault?_eq_none_iff.mp p.verified

/-- The run of a program on a call returns a value. -/
theorem run_eq_ok (p : Program) (call : Call) : ∃ k, Bpf.run p.code call.toBytes = .ok k :=
  p.wellFormed.run State.located_start p.wellFormed.ne_nil call

/-- The value is that of the last instruction visited, a return of the program. -/
theorem exists_ret_of_run (p : Program) (call : Call) :
    ∃ s k, ((State.start p.code).visited call.toBytes).getLast? = some s ∧
      p.code[s.index]? = some (.ret k) ∧ Bpf.run p.code call.toBytes = .ok k := by
  obtain ⟨k, hrun⟩ := p.run_eq_ok call
  have hstart : (State.start p.code).run call.toBytes = .ok k := hrun
  have hnever : (State.start p.code).run call.toBytes ≠ .error .fellOffEnd := by
    rw [hstart]
    exact fun h => nomatch h
  obtain ⟨s, hlast, hhalt⟩ := State.getLast?_visited hnever
  have hs : s.Located p.code :=
    State.located_of_mem_visited_start s (List.mem_of_getLast? hlast)
  rw [hstart] at hhalt
  rcases State.step_halt_cases hhalt with ⟨-, h⟩ | ⟨_, _, -, -, h⟩ | ⟨_, _, _, _, _, -, -, h⟩ |
    ⟨k', rest, hcode, h⟩
  · cases h
  · cases h
  · cases h
  · cases h
    exact ⟨s, k, hlast, hs.getElem? hcode, hrun⟩

theorem evaluate_of_run {p : Program} {k : UInt32} (h : Bpf.run p.code call.toBytes = .ok k) :
    p.evaluate call = (Action.decode k).mapError .unknownAction := by
  rw [Program.evaluate, Seccomp.evaluate, h, verdictOf]

/-- **Verification is sound.**  On every call, the run of a program moves strictly forwards inside
the program, executes no more instructions than it has, and ends at one of its returns, whose value
is the verdict.  So it never faults, and if all its returns name actions, the verdict is one of
these. -/
theorem evaluate_sound (p : Program) (call : Call) :
    let visited := (State.start p.code).visited call.toBytes
    (visited.Pairwise fun s t => s.index < t.index) ∧
      (∀ s ∈ visited, s.index < p.length ∧ s.code = p.code.drop s.index) ∧
      visited.length ≤ p.length ∧
      (∃ s k, visited.getLast? = some s ∧ p.code[s.index]? = some (.ret k) ∧
        p.evaluate call = (Action.decode k).mapError .unknownAction) ∧
      (∀ fault, p.evaluate call ≠ .error (.fault fault)) ∧
      ((∀ k, .ret k ∈ p.code → ∃ action, Action.decode k = .ok action) →
        ∃ k action, .ret k ∈ p.code ∧ Action.decode k = .ok action ∧
          p.evaluate call = .ok action) := by
  intro visited
  have hlocated : ∀ s ∈ visited, s.Located p.code :=
    State.located_of_mem_visited State.located_start
  obtain ⟨s, k, hlast, hret, hrun⟩ := p.exists_ret_of_run call
  have hverdict := evaluate_of_run hrun
  refine ⟨State.pairwise_index_visited, ?_, State.length_visited_le, ⟨s, k, hlast, hret, hverdict⟩,
    ?_, ?_⟩
  · intro t ht
    exact ⟨(hlocated t ht).index_lt (State.code_ne_nil_of_mem_visited t ht), hlocated t ht⟩
  · intro fault hfault
    rw [hverdict] at hfault
    cases hdecode : Action.decode k with
    | ok action => rw [hdecode] at hfault; cases hfault
    | error e => rw [hdecode] at hfault; cases hfault
  · intro hknown
    have hmem : .ret k ∈ p.code := List.mem_of_getElem? hret
    obtain ⟨action, haction⟩ := hknown k hmem
    refine ⟨k, action, hmem, haction, ?_⟩
    rw [hverdict, haction]
    rfl

/-- A program that compares the architecture and returns two known values. -/
theorem evaluate_sound_architecture_check :
    let p : Program := ⟨[.load 4, .jump .equal 0xc000003e 1 0, .ret 0x80000000, .ret 0x7fff0000],
      by decide⟩
    (∀ k, .ret k ∈ p.code → ∃ action, Action.decode k = .ok action) ∧
      ∃ k action, .ret k ∈ p.code ∧ Action.decode k = .ok action ∧
        p.evaluate { arch := 0xc000003e } = .ok action := by
  intro p
  have hknown : ∀ k, .ret k ∈ p.code → ∃ action, Action.decode k = .ok action := by
    intro k hk
    have hk : k = 0x80000000 ∨ k = 0x7fff0000 := by simpa [p] using hk
    rcases hk with rfl | rfl
    · exact ⟨.killProcess, rfl⟩
    · exact ⟨.allow, rfl⟩
  exact ⟨hknown, (evaluate_sound p { arch := 0xc000003e }).2.2.2.2.2 hknown⟩

end Program

end TtyGuard.Seccomp
