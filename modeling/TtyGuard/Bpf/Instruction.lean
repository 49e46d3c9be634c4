/-
# TtyGuard.Bpf.Instruction — the instructions of a filter and their raw records

A filter needs three kinds of classic BPF instruction: load a word of the input, branch forwards on
the accumulator, and return.  Each has one code and so one raw record; `ofRecord` recognises exactly
these records.  Main statements: `ofRecord_toRecord`, and `toRecord_of_ofRecord`, which says that
nothing of an accepted record is lost.
-/
import TtyGuard.Bpf.Record

namespace TtyGuard.Bpf

/-! ## Opcode bits: the parts that a code is put together from -/

namespace Opcode

/-- Class of loads into the accumulator. -/
def ld : UInt16 := 0x00
/-- Class of jumps. -/
def jmp : UInt16 := 0x05
/-- Class of returns. -/
def ret : UInt16 := 0x06
/-- Addressing mode: a fixed offset into the input. -/
def abs : UInt16 := 0x20
/-- Access size: one 32-bit word. -/
def word : UInt16 := 0x00
/-- Operand source: the constant in the instruction. -/
def immediate : UInt16 := 0x00
/-- Jump test: the accumulator equals the operand. -/
def jeq : UInt16 := 0x10
/-- Jump test: the accumulator and the operand share a bit. -/
def jset : UInt16 := 0x40

end Opcode

/-- Bytes in the word that one load reads. -/
def wordSize : Nat := 4

/-! ## Conditions -/

/-- A test of the accumulator against a constant. -/
inductive Condition where
  /-- The two are equal. -/
  | equal
  /-- The two have a bit in common. -/
  | bitSet
deriving DecidableEq, Repr

namespace Condition

/-- Whether the test succeeds for this accumulator and constant. -/
def holds : Condition → (acc k : UInt32) → Bool
  | equal, acc, k => acc == k
  | bitSet, acc, k => acc &&& k != 0

/-- The bits of a jump's code that name the test. -/
def bits : Condition → UInt16
  | equal => Opcode.jeq
  | bitSet => Opcode.jset

end Condition

/-! ## Instructions -/

/-- An instruction of a filter. -/
inductive Instruction where
  /-- Put the input's word at byte `offset` into the accumulator. -/
  | load (offset : UInt32)
  /-- Skip `jt` instructions if the test against `k` succeeds, `jf` if it fails. -/
  | jump (condition : Condition) (k : UInt32) (jt jf : UInt8)
  /-- End the run with the value `k`. -/
  | ret (k : UInt32)
deriving DecidableEq, Repr

namespace Instruction

/-- The class of the instruction, the low three bits of its code. -/
def classBits : Instruction → UInt16
  | load _ => Opcode.ld
  | jump .. => Opcode.jmp
  | ret _ => Opcode.ret

/-- The code of the instruction's record. -/
def opcode (ix : Instruction) : UInt16 :=
  ix.classBits ||| match ix with
    | load _ => Opcode.abs ||| Opcode.word
    | jump condition .. => condition.bits ||| Opcode.immediate
    | ret _ => Opcode.immediate

/-- How far the two branches skip; what does not branch skips nothing. -/
def jumpOffsets : Instruction → UInt8 × UInt8
  | jump _ _ jt jf => (jt, jf)
  | _ => (0, 0)

/-- The 32-bit operand: an offset, a constant to compare with or a value to return. -/
def operand : Instruction → UInt32
  | load offset => offset
  | jump _ k .. => k
  | ret k => k

/-- Whether the instruction ends the run. -/
def isReturn : Instruction → Bool
  | ret _ => true
  | _ => false

/-- The raw record of an instruction. -/
def toRecord (ix : Instruction) : Record where
  code := ix.opcode
  jt := ix.jumpOffsets.1
  jf := ix.jumpOffsets.2
  k := ix.operand

/-- The instruction that a record's code names, whatever the record's branch offsets are for an
instruction that has none. -/
def ofCode? (r : Record) : Option Instruction :=
  [load r.k, jump .equal r.k r.jt r.jf, jump .bitSet r.k r.jt r.jf, ret r.k].find?
    (·.opcode == r.code)

/-- Reads the record at position `index` of a program: its code must be known, and only a jump may
have branch offsets. -/
def ofRecord (index : Nat) (r : Record) : Except DecodeError Instruction :=
  match ofCode? r with
  | none => .error (.unknownOpcode index r.code)
  | some ix =>
    if ix.jumpOffsets = (r.jt, r.jf) then .ok ix
    else .error (.unexpectedJumpOffsets index r.jt r.jf)

/-- Reads the records of a program, the first at position `index`; the first bad one is reported. -/
def ofRecordsFrom (index : Nat) : List Record → Except DecodeError (List Instruction)
  | [] => .ok []
  | r :: rest => do
    let ix ← ofRecord index r
    let ixs ← ofRecordsFrom (index + 1) rest
    return ix :: ixs

/-! ## The four codes -/

@[simp] theorem opcode_load (offset : UInt32) : (load offset).opcode = 0x20 := by
  show (0x00 ||| (0x20 ||| 0x00) : UInt16) = 0x20
  decide

@[simp] theorem opcode_jump_equal (k : UInt32) (jt jf : UInt8) :
    (jump .equal k jt jf).opcode = 0x15 := by
  show (0x05 ||| (0x10 ||| 0x00) : UInt16) = 0x15
  decide

@[simp] theorem opcode_jump_bitSet (k : UInt32) (jt jf : UInt8) :
    (jump .bitSet k jt jf).opcode = 0x45 := by
  show (0x05 ||| (0x40 ||| 0x00) : UInt16) = 0x45
  decide

@[simp] theorem opcode_ret (k : UInt32) : (ret k).opcode = 0x06 := by
  show (0x06 ||| 0x00 : UInt16) = 0x06
  decide

/-- A code is known exactly if it is one of four, and each of the four has an instruction of its
own. -/
theorem ofCode?_eq_some_iff (r : Record) (ix : Instruction) :
    ofCode? r = some ix ↔
      (r.code = 0x20 ∧ ix = load r.k) ∨ (r.code = 0x15 ∧ ix = jump .equal r.k r.jt r.jf) ∨
        (r.code = 0x45 ∧ ix = jump .bitSet r.k r.jt r.jf) ∨ (r.code = 0x06 ∧ ix = ret r.k) := by
  by_cases hload : r.code = 0x20
  · simp [ofCode?, hload, eq_comm]
  by_cases hequal : r.code = 0x15
  · simp [ofCode?, hequal, eq_comm]
  by_cases hset : r.code = 0x45
  · simp [ofCode?, hset, eq_comm]
  by_cases hret : r.code = 0x06
  · simp [ofCode?, hret, eq_comm]
  simp [ofCode?, hload, hequal, hset, hret, eq_comm (b := r.code)]

/-! ## Instructions and records -/

@[simp] theorem ofCode?_toRecord (ix : Instruction) : ofCode? ix.toRecord = some ix := by
  rw [ofCode?_eq_some_iff]
  cases ix with
  | load offset => simp [toRecord, operand]
  | jump condition k jt jf => cases condition <;> simp [toRecord, operand, jumpOffsets]
  | ret k => simp [toRecord, operand]

/-- Every instruction comes back from its record, at any position. -/
@[simp] theorem ofRecord_toRecord (index : Nat) (ix : Instruction) :
    ofRecord index ix.toRecord = .ok ix := by
  have hoffsets : ix.jumpOffsets = (ix.toRecord.jt, ix.toRecord.jf) := rfl
  simp [ofRecord, ← hoffsets]

/-- An accepted record is the record of the instruction it was read as. -/
theorem toRecord_of_ofRecord {index : Nat} {r : Record} {ix : Instruction}
    (h : ofRecord index r = .ok ix) : ix.toRecord = r := by
  unfold ofRecord at h
  split at h
  · exact absurd h (by simp)
  · next found hfound =>
    split at h
    · next hoffsets =>
      injection h with h
      subst h
      -- The code gives the kind and the operand; the offsets were compared one by one.
      have hcode := (ofCode?_eq_some_iff r found).mp hfound
      have hjt : found.jumpOffsets.1 = r.jt := by rw [hoffsets]
      have hjf : found.jumpOffsets.2 = r.jf := by rw [hoffsets]
      have hk : found.operand = r.k := by
        rcases hcode with ⟨_, rfl⟩ | ⟨_, rfl⟩ | ⟨_, rfl⟩ | ⟨_, rfl⟩ <;> rfl
      have hopcode : found.opcode = r.code := by
        rcases hcode with ⟨h, rfl⟩ | ⟨h, rfl⟩ | ⟨h, rfl⟩ | ⟨h, rfl⟩ <;> simp [h]
      simp [toRecord, hjt, hjf, hk, hopcode]
    · exact absurd h (by simp)

/-- Reading the records of instructions gives the instructions, wherever the first one stands. -/
@[simp] theorem ofRecordsFrom_map_toRecord (index : Nat) (ixs : List Instruction) :
    ofRecordsFrom index (ixs.map toRecord) = .ok ixs := by
  induction ixs generalizing index with
  | nil => rfl
  | cons ix rest ih => simp only [List.map_cons, ofRecordsFrom, ofRecord_toRecord, ih]; rfl

end Instruction

end TtyGuard.Bpf
