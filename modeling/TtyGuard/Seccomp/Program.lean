/-
# TtyGuard.Seccomp.Program — code that the kernel would accept

A program is code without a static fault: it is neither empty nor too long, its loads are aligned
and inside the record of a call, its jumps lead to instructions, and its last instruction is a
return.  `fault?` finds the first fault; a `Program` carries the proof that there is none.
-/
import TtyGuard.Bpf.Statement
import TtyGuard.Seccomp.Evaluation

namespace TtyGuard.Seccomp

open Bpf (Instruction Record DecodeError)

/-! ## Static faults -/

/-- Why code is not a program. -/
inductive VerificationError where
  /-- There are no instructions. -/
  | empty
  /-- There are `count` instructions, more than `max`. -/
  | tooManyInstructions (count max : Nat)
  /-- The further branch of the jump at `index` leads to `target`, not inside `length`. -/
  | jumpOutOfBounds (index target length : Nat)
  /-- The load at `index` is misaligned or not inside the record. -/
  | invalidLoad (index : Nat) (offset : UInt32)
  /-- The last instruction is not a return. -/
  | missingReturn
deriving DecidableEq, Repr

/-- The text shown for code that is not a program. -/
def VerificationError.message : VerificationError → String
  | empty => "filter contains no instructions"
  | tooManyInstructions count max =>
    s!"filter contains {count} instructions, which is more than the maximum of {max}"
  | jumpOutOfBounds index target length =>
    s!"instruction {index} jumps to {target}, past the end of the {length} instruction filter"
  | invalidLoad index offset =>
    s!"instruction {index} loads {Bpf.wordSize} bytes at offset {offset}, outside of or misaligned within seccomp_data"
  | missingReturn => "the last instruction is not a return, the program can run off its end"

/-- The largest number of instructions that the kernel takes. -/
def maxInstructions : Nat := 4096

/-- The fault of the instruction at `index` in code of this length. -/
def instructionFault? (length index : Nat) : Instruction → Option VerificationError
  | .load offset =>
    if offset.toNat % Bpf.wordSize = 0 ∧ Call.inBounds offset (.ofNat Bpf.wordSize) then none
    else some (.invalidLoad index offset)
  | .jump _ _ jt jf =>
    let target := index + 1 + (max jt jf).toNat
    if target < length then none else some (.jumpOutOfBounds index target length)
  | .ret _ => none

/-- The first faulty instruction of `code`, the part of longer code of this length that begins at
`index`. -/
def firstFault? (length index : Nat) (code : List Instruction) : Option VerificationError :=
  (code.zipIdx index).findSome? fun (ix, i) => instructionFault? length i ix

/-- The first fault of code: of its length, of the instructions in order, of its end. -/
def fault? (code : List Instruction) : Option VerificationError :=
  if code.isEmpty then some .empty
  else if maxInstructions < code.length then
    some (.tooManyInstructions code.length maxInstructions)
  else
    match firstFault? code.length 0 code with
    | some e => some e
    | none => if Bpf.Statement.endsInReturn code then none else some .missingReturn

/-! ## Programs -/

/-- Code without a static fault. -/
structure Program where
  code : List Instruction
  verified : fault? code = none
deriving DecidableEq

/-- Why bytes are not a program. -/
inductive ReadError where
  /-- They are not the records of instructions. -/
  | decode (e : DecodeError)
  /-- The instructions are not a program. -/
  | verify (e : VerificationError)
deriving DecidableEq, Repr

/-- The text shown for bytes that are not a program. -/
def ReadError.message : ReadError → String
  | decode e => "cannot decode the filter: " ++ e.message
  | verify e => "decoded filter is not valid: " ++ e.message

namespace Program

/-- Takes code as a program if it has no fault. -/
def ofCode (code : List Instruction) : Except VerificationError Program :=
  match h : fault? code with
  | none => .ok ⟨code, h⟩
  | some e => .error e

/-- Code is taken unchanged, and exactly if it has no fault. -/
theorem ofCode_eq_ok_iff {code : List Instruction} {p : Program} :
    ofCode code = .ok p ↔ p.code = code := by
  obtain ⟨code', verified⟩ := p
  unfold ofCode
  split
  · simp [eq_comm]
  · next e h =>
    simp only [reduceCtorEq, false_iff]
    rintro rfl
    exact absurd (verified.symm.trans h) (by simp)

theorem ofCode_eq_error_iff {code : List Instruction} {e : VerificationError} :
    ofCode code = .error e ↔ fault? code = some e := by
  unfold ofCode
  split <;> simp_all

/-- How many instructions the program has. -/
def length (p : Program) : Nat := p.code.length

/-- The program's instructions as raw records. -/
def toRecords (p : Program) : List Record := p.code.map Instruction.toRecord

/-- The program as the kernel takes it: its records back to back. -/
def toBytes (p : Program) : List UInt8 := Record.serialize p.toRecords

/-- Reads a program back from its bytes. -/
def ofBytes (bytes : List UInt8) : Except ReadError Program := do
  let records ← (Record.deserialize bytes).mapError .decode
  let code ← (Instruction.ofRecordsFrom 0 records).mapError .decode
  (ofCode code).mapError .verify

/-- The program's verdict on a call. -/
def evaluate (p : Program) (call : Call) : Except EvaluationError Action :=
  Seccomp.evaluate p.code call

end Program

end TtyGuard.Seccomp
