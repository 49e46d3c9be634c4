/-
# TtyGuard.Seccomp.Call — the record of a system call that a filter reads

A filter sees a call as 64 bytes: its number, the architecture, the instruction pointer and six
arguments, little-endian and without gaps.
-/
import TtyGuard.Bytes

namespace TtyGuard.Seccomp

/-- A system call as the kernel describes it to a filter. -/
structure Call where
  nr : Int32 := 0
  arch : UInt32 := 0
  instructionPointer : UInt64 := 0
  args : Vector UInt64 6 := .replicate 6 0
deriving DecidableEq, Repr

namespace Call

/-- Bytes in the record of a call. -/
def byteSize : Nat := 64

/-- The record of the call. -/
def toBytes (call : Call) : List UInt8 :=
  leBytes 4 call.nr.toUInt32.toNat ++ leBytes 4 call.arch.toNat ++
    leBytes 8 call.instructionPointer.toNat ++
    call.args.toList.flatMap fun arg => leBytes 8 arg.toNat

@[simp] theorem length_toBytes (call : Call) : call.toBytes.length = byteSize := by
  simp [toBytes, byteSize, List.length_flatMap, List.map_const']

/-- Whether `size` bytes at `offset` lie inside the record. -/
def inBounds (offset size : UInt32) : Bool :=
  offset.toNat + size.toNat ≤ byteSize

/-- The words of the record that the terminal filter looks at. -/
inductive Field where
  | syscallNumber
  | architecture
  /-- The low half of the second argument; the caller controls the high half. -/
  | secondArgumentLow
deriving DecidableEq, Repr

/-- Where the word stands in the record. -/
def Field.offset : Field → UInt32
  | syscallNumber => 0
  | architecture => 4
  | secondArgumentLow => 24

end Call

end TtyGuard.Seccomp
