/-
# TtyGuard.Bpf.Machine — running code on an input

The machine has one 32-bit accumulator and looks at the code that is left: jumps only go forwards,
so every step leaves less of it and no run needs a bound on its length.  A position is counted as
well, but only for reports of faults.  `State.run` gives the result of a run and `State.visited` the
states it passes through, each of them in front of the instruction it executes.
-/
import TtyGuard.Bpf.Instruction

namespace TtyGuard.Bpf

/-- Why a run ended without a return. -/
inductive Fault where
  /-- The load at `index` reaches past the end of the input. -/
  | loadOutOfBounds (index : Nat) (offset : UInt32)
  /-- The jump at `index` leads to `target`, where there is no instruction. -/
  | jumpOutOfBounds (index target : Nat)
  /-- There was no instruction left. -/
  | fellOffEnd
deriving DecidableEq, Repr

namespace Fault

/-- The text shown for a fault. -/
def message : Fault → String
  | loadOutOfBounds index offset =>
    s!"instruction {index} reads {wordSize} bytes at offset {offset}, outside of seccomp_data"
  | jumpOutOfBounds index target =>
    s!"instruction {index} jumps to {target}, past the end of the program"
  | fellOffEnd => "execution ran past the last instruction"

/-- The same fault in code that has `n` more instructions in front. -/
def shift (n : Nat) : Fault → Fault
  | loadOutOfBounds index offset => loadOutOfBounds (n + index) offset
  | jumpOutOfBounds index target => jumpOutOfBounds (n + index) (n + target)
  | fellOffEnd => fellOffEnd

end Fault

/-- The input's word at byte `offset`, if all of it lies inside. -/
def wordAt? (input : List UInt8) (offset : UInt32) : Option UInt32 :=
  if offset.toNat + wordSize ≤ input.length then
    some (.ofNat (leValue ((input.drop offset.toNat).take wordSize)))
  else none

/-- A machine in front of the instructions it has left. -/
structure State where
  /-- How many instructions of the whole code stand in front. -/
  index : Nat
  acc : UInt32
  code : List Instruction
deriving DecidableEq, Repr

/-- What one instruction leads to. -/
inductive Progress where
  | next (s : State)
  | halt (result : Except Fault UInt32)

namespace State

/-- The machine in front of the whole code. -/
def start (code : List Instruction) : State := ⟨0, 0, code⟩

/-- Executes the instruction in front. -/
def step (input : List UInt8) (s : State) : Progress :=
  match s.code with
  | [] => .halt (.error .fellOffEnd)
  | .load offset :: rest =>
    match wordAt? input offset with
    | some word => .next ⟨s.index + 1, word, rest⟩
    | none => .halt (.error (.loadOutOfBounds s.index offset))
  | .jump condition k jt jf :: rest =>
    let skip := (if condition.holds s.acc k then jt else jf).toNat
    match rest.drop skip with
    | [] => .halt (.error (.jumpOutOfBounds s.index (s.index + 1 + skip)))
    | code => .next ⟨s.index + 1 + skip, s.acc, code⟩
  | .ret k :: _ => .halt (.ok k)

/-- Every step leaves less code, since jumps only go forwards. -/
theorem length_code_lt_of_step {input : List UInt8} {s t : State} (h : s.step input = .next t) :
    t.code.length < s.code.length := by
  unfold step at h
  split at h
  · cases h
  · next rest hcode =>
    split at h
    · injection h with h; subst h; simp [hcode]
    · cases h
  · next condition k jt jf rest hcode =>
    dsimp only at h
    split at h
    · cases h
    · injection h with h
      subst h
      simp only [hcode, List.length_drop, List.length_cons]
      omega
  · cases h

/-- Runs to the end: the returned value, or the fault that stopped the run. -/
def run (input : List UInt8) (s : State) : Except Fault UInt32 :=
  match _h : s.step input with
  | .next t => t.run input
  | .halt result => result
termination_by s.code.length
decreasing_by exact length_code_lt_of_step _h

/-- The states of the run that stand in front of an instruction, in order. -/
def visited (input : List UInt8) (s : State) : List State :=
  if s.code.isEmpty then []
  else
    s :: match _h : s.step input with
      | .next t => t.visited input
      | .halt _ => []
termination_by s.code.length
decreasing_by exact length_code_lt_of_step _h

/-! ## One step at a time -/

variable {input : List UInt8} {s t : State}

theorem run_of_next (h : s.step input = .next t) : s.run input = t.run input := by
  rw [run]
  split <;> simp_all

theorem run_of_halt {result : Except Fault UInt32} (h : s.step input = .halt result) :
    s.run input = result := by
  rw [run]
  split <;> simp_all

theorem visited_of_next (h : s.step input = .next t) :
    s.visited input = s :: t.visited input := by
  have hcode : s.code.isEmpty = false := by
    cases hs : s.code with
    | nil => simp [step, hs] at h
    | cons ix rest => rfl
  rw [visited, if_neg (by simp [hcode])]
  congr 1
  split
  · next u hu =>
    rw [h] at hu
    injection hu with hu
    rw [hu]
  · next hu => simp [h] at hu

theorem visited_of_halt {result : Except Fault UInt32} (h : s.step input = .halt result) :
    s.visited input = if s.code.isEmpty then [] else [s] := by
  rw [visited]
  split
  · rfl
  · split <;> simp_all

end State

/-- Runs code on an input, from its first instruction and with an empty accumulator. -/
def run (code : List Instruction) (input : List UInt8) : Except Fault UInt32 :=
  (State.start code).run input

end TtyGuard.Bpf
