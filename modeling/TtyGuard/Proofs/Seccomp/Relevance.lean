/-
# TtyGuard.Proofs.Seccomp.Relevance — what of a call a verdict depends on

Code looks at a call through its loads.  Two calls whose records agree on the bytes of every load
that lies inside the record are therefore told apart by no code, verified or not
(`evaluate_congr`); a load outside the record fails on every call.  The terminal filter loads three
words (`offset_of_mem_code`), so it sees the number, the architecture and the low half of the second
argument, and nothing else can change its verdict.
-/
import TtyGuard.Proofs.Bpf.Lockstep
import TtyGuard.Proofs.Seccomp.Enforcement

namespace TtyGuard.Seccomp

open Bpf (Instruction ReadsAlike State wordAt? wordSize)

variable {code : List Instruction} {call call' : Call}

/-! ## Records that agree where code looks -/

/-- The records of the calls have the same bytes where a word at `offset` stands. -/
def Call.AgreeAt (call call' : Call) (offset : UInt32) : Prop :=
  ∀ i < wordSize, call.toBytes[offset.toNat + i]? = call'.toBytes[offset.toNat + i]?

theorem wordAt?_of_agreeAt {offset : UInt32} (h : call.AgreeAt call' offset) :
    wordAt? call.toBytes offset = wordAt? call'.toBytes offset := by
  have hword : (call.toBytes.drop offset.toNat).take wordSize =
      (call'.toBytes.drop offset.toNat).take wordSize := by
    refine List.ext_getElem? fun i => ?_
    rw [List.getElem?_take, List.getElem?_take]
    split
    · next hi => rw [List.getElem?_drop, List.getElem?_drop, h i hi]
    · rfl
  rw [wordAt?, wordAt?, hword, Call.length_toBytes, Call.length_toBytes]

/-- Calls that agree on the bytes of the loads inside the record are alike to the code. -/
theorem readsAlike_of_agreeAt
    (h : ∀ offset, .load offset ∈ code → Call.inBounds offset (.ofNat wordSize) = true →
      call.AgreeAt call' offset) : ReadsAlike call.toBytes call'.toBytes code := by
  intro offset hload
  by_cases hinside : Call.inBounds offset (.ofNat wordSize) = true
  · exact wordAt?_of_agreeAt (h offset hload hinside)
  · have hnone (call : Call) : wordAt? call.toBytes offset = none :=
      (wordAt?_toBytes_eq call offset).trans (if_neg (mt inBounds_word_iff.mpr hinside))
    rw [hnone call, hnone call']

theorem evaluate_congr (h : ReadsAlike call.toBytes call'.toBytes code) :
    evaluate code call = evaluate code call' := by
  have hrun : Bpf.run code call.toBytes = Bpf.run code call'.toBytes :=
    State.run_congr (s := State.start code) h
  rw [evaluate, evaluate, hrun]

/-! ## What the terminal filter looks at -/

namespace Injection

/-- The filter's loads read the three fields of a call and nothing else. -/
theorem offset_of_mem_code {profile : Profile} {offset : UInt32}
    (hcode : Injection.code profile = .ok code) (hload : .load offset ∈ code) :
    ∃ field : Call.Field, offset = field.offset := by
  have hfields : offset = Call.Field.architecture.offset ∨
      offset = Call.Field.syscallNumber.offset ∨ offset = Call.Field.secondArgumentLow.offset := by
    obtain ⟨arch, ioctlNr, hasX32⟩ := profile
    cases hasX32 with
    | true =>
      cases hcode
      simpa [loadField, returnAction] using hload
    | false =>
      cases hcode
      simpa [loadField, returnAction] using hload
  rcases hfields with rfl | rfl | rfl
  · exact ⟨_, rfl⟩
  · exact ⟨_, rfl⟩
  · exact ⟨_, rfl⟩

theorem readsAlike_of_fields {profile : Profile} (hcode : Injection.code profile = .ok code)
    (hnr : call.nr = call'.nr) (harch : call.arch = call'.arch)
    (hcommand : Policy.command call = Policy.command call') :
    ReadsAlike call.toBytes call'.toBytes code := by
  intro offset hload
  obtain ⟨field, rfl⟩ := offset_of_mem_code hcode hload
  rw [call.wordAt?_field, call'.wordAt?_field, hnr, harch, hcommand]

end Injection

/-- **A verdict depends on the loaded words alone.**  Any code, on two calls whose records agree on
the bytes of its loads inside the record, passes through the same states and gives the same verdict
or fails in the same way.  So the terminal filter of a target does not tell calls apart that have
the same number, the same architecture and the same low half of the second argument. -/
theorem evaluate_depends_on_loads :
    (∀ (code : List Instruction) (call call' : Call),
      (∀ offset, .load offset ∈ code → Call.inBounds offset (.ofNat wordSize) = true →
        ∀ i < wordSize, call.toBytes[offset.toNat + i]? = call'.toBytes[offset.toNat + i]?) →
      (State.start code).visited call.toBytes = (State.start code).visited call'.toBytes ∧
        evaluate code call = evaluate code call') ∧
    ∀ profile : Profile, ∃ program, Injection.filter profile = .ok program ∧
      ∀ call call' : Call, call.nr = call'.nr → call.arch = call'.arch →
        Policy.command call = Policy.command call' →
        program.evaluate call = program.evaluate call' := by
  constructor
  · intro code call call' hagree
    have halike : ReadsAlike call.toBytes call'.toBytes code := readsAlike_of_agreeAt hagree
    exact ⟨State.visited_congr halike, evaluate_congr halike⟩
  · intro profile
    obtain ⟨program, hfilter, hcode⟩ := Injection.exists_filter profile
    refine ⟨program, hfilter, fun call call' hnr harch hcommand => ?_⟩
    exact evaluate_congr (Injection.readsAlike_of_fields hcode hnr harch hcommand)

/-- Code that no verifier accepts: a misaligned load over the end of the number and the beginning of
the architecture, and a load outside the record.  The calls differ in other bytes of the two
fields, and the terminal filter does not see the high half of a command. -/
theorem evaluate_depends_on_loads_misaligned :
    let code : List Instruction :=
      [.load 2, .jump .equal 0x00070001 1 0, .ret 0x7fff0000, .load 62, .ret 0x80000000]
    let call : Call := { nr := 0x00011234, arch := 0x00020007 }
    let call' : Call := { nr := 0x00015678, arch := 0x00030007, instructionPointer := 1 }
    let ioctl (command : UInt64) : Call :=
      { nr := 16, arch := 0xc000003e, args := ⟨#[0, command, 0, 0, 0, 0], rfl⟩ }
    evaluate code call = evaluate code call' ∧
      ∃ program, Injection.filter (.ofArchitecture .x86_64) = .ok program ∧
        program.evaluate (ioctl 0x5412) = program.evaluate (ioctl 0x100005412) := by
  intro code call call' ioctl
  have hagree : ∀ offset, .load offset ∈ code → Call.inBounds offset (.ofNat wordSize) = true →
      ∀ i < wordSize, call.toBytes[offset.toNat + i]? = call'.toBytes[offset.toNat + i]? := by
    intro offset hload
    obtain rfl | rfl : offset = 2 ∨ offset = 62 := by simpa [code] using hload
    · decide
    · decide
  obtain ⟨program, hfilter, hsame⟩ := evaluate_depends_on_loads.2 (.ofArchitecture .x86_64)
  refine ⟨(evaluate_depends_on_loads.1 code call call' hagree).2, program, hfilter, ?_⟩
  exact hsame _ _ rfl rfl (by decide)

end TtyGuard.Seccomp
