/-
# TtyGuard.Proofs.Seccomp.Enforcement — what compiled blocks decide, and that the filter is one

A block is a policy that can be read without code.  `evaluate_compile` says what its code decides
on a call; the terminal filter is the code of `Injection.block`, whose meaning is the policy's
verdict (`meaning_block`).  The filter's last statement leaves nothing to run into, while a compiled
block needs an instruction behind it: since the filter passes verification, its runs return, and an
instruction behind them changes nothing.
-/
import TtyGuard.Proofs.Bpf.Compilation
import TtyGuard.Proofs.Bpf.Relocation
import TtyGuard.Proofs.Seccomp.Layout
import TtyGuard.Proofs.Seccomp.Verification
import TtyGuard.Seccomp.Injection

namespace TtyGuard.Seccomp

open Bpf (Block Instruction Reading State)

/-! ## Compiled blocks -/

/-- **The code of a block decides what the block says.**  If no fallback falls through, then on
every call, with every accumulator and in front of any further code, a returned value is the
verdict's, a load outside the record is reported, and falling through goes on with that code. -/
theorem evaluate_compile {block : Block} {code rest : List Instruction}
    (hcompile : block.compile = .ok code) (hends : ∀ call : Call, block.FallbacksEnd call.toBytes)
    (hrest : rest ≠ []) (call : Call) (acc : UInt32) :
    match block.meaning call.toBytes acc with
    | .returned k => verdictOf (State.run call.toBytes ⟨0, acc, code ++ rest⟩) =
        (Action.decode k).mapError .unknownAction
    | .faulted offset => ∃ i, code[i]? = some (.load offset) ∧
        verdictOf (State.run call.toBytes ⟨0, acc, code ++ rest⟩) =
          .error (.fault (.loadOutOfBounds i offset))
    | .fell a => State.run call.toBytes ⟨0, acc, code ++ rest⟩ =
        (State.run call.toBytes ⟨0, a, rest⟩).mapError (Bpf.Fault.shift code.length) := by
  have hcode := Bpf.realizes_compile hcompile (hends call) hrest acc
  cases hmeaning : block.meaning call.toBytes acc with
  | returned k =>
    rw [hmeaning] at hcode
    show verdictOf _ = _
    rw [hcode 0, verdictOf]
  | faulted offset =>
    rw [hmeaning] at hcode
    obtain ⟨i, hi, hrun⟩ := hcode
    refine ⟨i, hi, ?_⟩
    rw [hrun 0, verdictOf, Nat.zero_add]
  | fell a =>
    rw [hmeaning] at hcode
    show State.run _ _ = _
    rw [hcode 0, Nat.zero_add, State.run_eq_mapError]

/-- A matched body that falls through, behind a fallback with a branch of its own. -/
theorem evaluate_compile_matched_body :
    let block : Block := .load 0 (.whenAnyElse [⟨.equal, 16⟩, ⟨.bitSet, 0x40000000⟩]
      (.when ⟨.bitSet, 0x40000000⟩ (.ret 0x00050001 .done) .done)
      (.load 24 (.whenNot ⟨.equal, 0x5412⟩ (.ret 0x7fff0000 .done) (.ret 0x00050001 .done))) .done)
    let code : List Instruction := [.load 0, .jump .equal 16 5 0, .jump .bitSet 0x40000000 4 0,
      .load 24, .jump .equal 0x5412 1 0, .ret 0x7fff0000, .ret 0x00050001,
      .jump .bitSet 0x40000000 0 1, .ret 0x00050001]
    let call : Call := { nr := 16 }
    block.compile = .ok code ∧ (∀ call : Call, block.FallbacksEnd call.toBytes) ∧
      State.run call.toBytes ⟨0, 0, code ++ [.ret 0x80000000]⟩ =
        (State.run call.toBytes ⟨0, 16, [.ret 0x80000000]⟩).mapError
          (Bpf.Fault.shift code.length) := by
  intro block code call
  have hcompile : block.compile = .ok code := rfl
  have hends : ∀ call : Call, block.FallbacksEnd call.toBytes := by
    intro call
    refine ⟨?_, ⟨trivial, trivial⟩, ⟨trivial, trivial⟩, trivial⟩
    intro acc a
    rw [Block.meaning]
    split
    · rw [Block.meaning]
      split
      · rintro ⟨⟩
      · rintro ⟨⟩
    · rintro ⟨⟩
  have hmeaning : block.meaning call.toBytes 0 = .fell 16 := by decide
  have hrun := evaluate_compile hcompile hends
    (List.cons_ne_nil (Instruction.ret 0x80000000) []) call 0
  rw [hmeaning] at hrun
  exact ⟨hcompile, hends, hrun⟩

/-! ## Terms and guards

A guard is a statement whose body returns at once. -/

theorem holds_equal (k acc : UInt32) :
    Bpf.Term.holds ⟨.equal, k⟩ acc = decide (acc = k) :=
  Bool.beq_eq_decide_eq acc k

theorem holds_bitSet (mask acc : UInt32) :
    Bpf.Term.holds ⟨.bitSet, mask⟩ acc = decide (acc &&& mask ≠ 0) := by
  rw [Bpf.Term.holds, Bpf.Condition.holds, bne, Bool.beq_eq_decide_eq, decide_not]

theorem any_holds_equal (ks : List UInt32) (acc : UInt32) :
    (ks.map fun k => (⟨.equal, k⟩ : Bpf.Term)).any (·.holds acc) = decide (acc ∈ ks) := by
  induction ks with
  | nil => rfl
  | cons k ks ih =>
    rw [List.map_cons, List.any_cons, holds_equal, ih, ← Bool.decide_or]
    simp only [List.mem_cons]

variable {input : List UInt8} {next : Block} {term : Bpf.Term} {terms : List Bpf.Term}
  {acc k j : UInt32}

theorem meaning_load {offset word : UInt32} (h : Bpf.wordAt? input offset = some word) :
    (Block.load offset next).meaning input acc = next.meaning input word := by
  rw [Block.meaning, h]

theorem meaning_when_ret :
    (Block.when term (.ret k .done) next).meaning input acc =
      if term.holds acc then .returned k else next.meaning input acc := by
  rw [Block.meaning]
  split <;> rfl

theorem meaning_whenNot_ret :
    (Block.whenNot term (.ret k .done) next).meaning input acc =
      if term.holds acc then next.meaning input acc else .returned k := by
  rw [Block.meaning]
  split <;> rfl

theorem meaning_whenAnyElse_ret :
    (Block.whenAnyElse terms (.ret k .done) (.ret j .done) next).meaning input acc =
      .returned (if terms.any (·.holds acc) then k else j) := by
  rw [Block.meaning]
  split <;> rfl

/-! ## The policy in numbers -/

/-- The x32 convention is marked by bit 30 of a call's number. -/
theorem and_x32Bit_ne_zero_iff (nr : UInt32) : nr &&& x32Bit ≠ 0 ↔ nr.toNat.testBit 30 = true := by
  have hand : (nr &&& x32Bit).toNat = (nr.toNat.testBit 30).toNat * 2 ^ 30 := by
    rw [UInt32.toNat_and, ← Nat.and_two_pow]
    rfl
  rw [ne_eq, ← UInt32.toNat_inj, hand]
  cases nr.toNat.testBit 30 with
  | true => decide
  | false => decide

/-- The blocked commands are those whose low 32 bits are one of two numbers. -/
theorem command_mem_blockedCommands_iff (call : Call) :
    Policy.command call ∈ Policy.blockedCommands ↔
      call.args[1].toNat % 2 ^ 32 = 0x5412 ∨ call.args[1].toNat % 2 ^ 32 = 0x541c := by
  have hcommand : (Policy.command call).toNat = call.args[1].toNat % 2 ^ 32 :=
    UInt64.toNat_toUInt32 _
  rw [← hcommand, Policy.blockedCommands, List.mem_cons, List.mem_singleton, ← UInt32.toNat_inj,
    ← UInt32.toNat_inj]
  rfl

theorem Policy.verdict_eq (profile : Profile) (call : Call) :
    Policy.verdict profile call =
      if call.arch ≠ profile.auditValue then .killProcess
      else if profile.hasX32 ∧ call.nr.toUInt32.toNat.testBit 30 = true then .errno 1
      else if call.nr.toUInt32 ≠ profile.ioctlNr then .allow
      else if call.args[1].toNat % 2 ^ 32 = 0x5412 ∨ call.args[1].toNat % 2 ^ 32 = 0x541c then
        .errno 1
      else .allow := by
  simp only [Policy.verdict, and_x32Bit_ne_zero_iff, command_mem_blockedCommands_iff, Action.deny]

namespace Injection

/-! ## The filter as a block -/

/-- The part of the filter that looks at the number and the command of a call of the right kind. -/
def commandBlock (profile : Profile) : Block :=
  .whenNot ⟨.equal, profile.ioctlNr⟩ (.ret Action.allow.encode .done)
    (.load Call.Field.secondArgumentLow.offset
      (.whenAnyElse (Policy.blockedCommands.map (⟨.equal, ·⟩)) (.ret Action.deny.encode .done)
        (.ret Action.allow.encode .done) .done))

/-- The filter, written as nested statements. -/
def block (profile : Profile) : Block :=
  .load Call.Field.architecture.offset
    (.whenNot ⟨.equal, profile.auditValue⟩ (.ret Action.killProcess.encode .done)
      (.load Call.Field.syscallNumber.offset
        (if profile.hasX32 then
          .when ⟨.bitSet, x32Bit⟩ (.ret Action.deny.encode .done) (commandBlock profile)
        else commandBlock profile)))

/-- The filter's instructions are the code of its block. -/
theorem compile_block (profile : Profile) : (block profile).compile = code profile := by
  obtain ⟨arch, ioctlNr, hasX32⟩ := profile
  cases hasX32 with
  | true => rfl
  | false => rfl

theorem fallbacksEnd_block (profile : Profile) (input : List UInt8) :
    (block profile).FallbacksEnd input := by
  -- The one fallback returns, whatever it is entered with.
  have hcommand : (commandBlock profile).FallbacksEnd input :=
    ⟨trivial, ⟨fun _ _ h => (nomatch h), trivial, trivial, trivial⟩⟩
  refine ⟨trivial, ?_⟩
  show Block.FallbacksEnd input (if profile.hasX32 then _ else _)
  split
  · exact ⟨trivial, hcommand⟩
  · exact hcommand

/-- What the block says about the number and the command. -/
theorem meaning_commandBlock (profile : Profile) (call : Call) :
    (commandBlock profile).meaning call.toBytes call.nr.toUInt32 =
      .returned (if call.nr.toUInt32 ≠ profile.ioctlNr then Action.allow
        else if Policy.command call ∈ Policy.blockedCommands then .deny else .allow).encode := by
  have hword : Bpf.wordAt? call.toBytes Call.Field.secondArgumentLow.offset =
      some (Policy.command call) := call.wordAt?_field .secondArgumentLow
  rw [commandBlock, meaning_whenNot_ret, meaning_load hword, meaning_whenAnyElse_ret, holds_equal,
    any_holds_equal]
  simp only [decide_eq_true_eq]
  by_cases hnr : call.nr.toUInt32 = profile.ioctlNr
  · rw [if_pos hnr, if_neg (not_not_intro hnr), apply_ite Action.encode]
  · rw [if_neg hnr, if_pos hnr]

/-- The block says what the policy says. -/
theorem meaning_block (profile : Profile) (call : Call) (acc : UInt32) :
    (block profile).meaning call.toBytes acc = .returned (Policy.verdict profile call).encode := by
  have harch : Bpf.wordAt? call.toBytes Call.Field.architecture.offset = some call.arch :=
    call.wordAt?_field .architecture
  have hnr : Bpf.wordAt? call.toBytes Call.Field.syscallNumber.offset = some call.nr.toUInt32 :=
    call.wordAt?_field .syscallNumber
  rw [block, meaning_load harch, meaning_whenNot_ret, meaning_load hnr, holds_equal, Policy.verdict]
  simp only [decide_eq_true_eq]
  by_cases hforeign : call.arch = profile.auditValue
  · rw [if_pos hforeign, if_neg (not_not_intro hforeign)]
    cases hx32 : profile.hasX32 with
    | true =>
      rw [if_pos rfl, meaning_when_ret, holds_bitSet, meaning_commandBlock]
      simp only [decide_eq_true_eq, true_and]
      split
      · rfl
      · rfl
    | false => simp only [Bool.false_eq_true, false_and, if_false, meaning_commandBlock]
  · rw [if_neg hforeign, if_pos hforeign]

/-! ## The filter -/

/-- The code of every filter can be laid out and passes verification. -/
theorem exists_code (profile : Profile) :
    ∃ instructions, code profile = .ok instructions ∧ fault? instructions = none := by
  obtain ⟨arch, ioctlNr, hasX32⟩ := profile
  cases hasX32 with
  | true => exact ⟨_, rfl, rfl⟩
  | false => exact ⟨_, rfl, rfl⟩

theorem exists_filter (profile : Profile) :
    ∃ program, filter profile = .ok program ∧ code profile = .ok program.code := by
  obtain ⟨instructions, hcode, hverified⟩ := exists_code profile
  refine ⟨⟨instructions, hverified⟩, ?_, hcode⟩
  have hprogram : Program.ofCode instructions = .ok ⟨instructions, hverified⟩ :=
    Program.ofCode_eq_ok_iff.mpr rfl
  rw [filter, hcode]
  show (Program.ofCode instructions).mapError FilterError.verification = _
  rw [hprogram]
  rfl

/-- The filter's run on a call returns the value of the policy's verdict. -/
theorem run_of_code {profile : Profile} {program : Program} (h : code profile = .ok program.code)
    (call : Call) :
    Bpf.run program.code call.toBytes = .ok (Policy.verdict profile call).encode := by
  obtain ⟨k, hrun⟩ := program.run_eq_ok call
  -- The run returns, so it also does with an instruction behind the filter, which the code of a
  -- block needs.
  have hstart : (State.start program.code).run call.toBytes = .ok k := hrun
  have hinside : Bpf.EndsInside ((State.start program.code).run call.toBytes) := by
    rw [hstart]
    trivial
  have happend := State.run_append [.ret 0] hinside
  have hblock := Bpf.realizes_compile ((compile_block profile).trans h)
    (fallbacksEnd_block profile call.toBytes) (List.cons_ne_nil (Instruction.ret 0) []) 0
  rw [meaning_block] at hblock
  exact happend.symm.trans (hblock 0)

/-- **The filter enforces the policy.**  For every target there is a filter, and on every call it
gives the policy's verdict: kill on a foreign architecture, deny the x32 convention where the target
has it, allow all that is not `ioctl`, deny the two commands by their low 32 bits, and allow the
rest. -/
theorem evaluate_filter (profile : Profile) :
    ∃ program, filter profile = .ok program ∧ ∀ call : Call,
      program.evaluate call = .ok (Policy.verdict profile call) ∧
      Policy.verdict profile call =
        if call.arch ≠ profile.auditValue then .killProcess
        else if profile.hasX32 ∧ call.nr.toUInt32.toNat.testBit 30 = true then .errno 1
        else if call.nr.toUInt32 ≠ profile.ioctlNr then .allow
        else if call.args[1].toNat % 2 ^ 32 = 0x5412 ∨ call.args[1].toNat % 2 ^ 32 = 0x541c then
          .errno 1
        else .allow := by
  obtain ⟨program, hfilter, hcode⟩ := exists_filter profile
  refine ⟨program, hfilter, fun call => ⟨?_, Policy.verdict_eq profile call⟩⟩
  rw [Program.evaluate_of_run (run_of_code hcode call), Action.decode_encode]
  rfl

end Injection

end TtyGuard.Seccomp
