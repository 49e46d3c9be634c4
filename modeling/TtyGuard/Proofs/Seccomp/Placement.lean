/-
# TtyGuard.Proofs.Seccomp.Placement — verdicts of code inside longer code

A verdict is what a run ends with, and runs do not see where their code stands or what follows it.
`verdictFrom_placed` says this of verdicts, for code between any instructions in front of it and any
behind it.  Those in front only move the positions that an error reports.  Those behind matter to
two kinds of runs alone: one that jumps out of the code, of which nothing is said here, and one that
falls off its end, which goes on with them.
-/
import TtyGuard.Proofs.Bpf.Continuation
import TtyGuard.Proofs.Seccomp.Diagnosis

namespace TtyGuard.Seccomp

open Bpf (Instruction State Fault EndsInside)
open Bpf.State (enter)

variable {code more : List Instruction} {input : List UInt8} {acc : UInt32} {s : State}
  {result : Except Fault UInt32}

/-- The verdict that a machine comes to. -/
def verdictFrom (input : List UInt8) (s : State) : Except EvaluationError Action :=
  verdictOf (s.run input)

/-- The same error in code that has `n` more instructions in front. -/
def EvaluationError.shift (n : Nat) : EvaluationError → EvaluationError
  | fault f => fault (f.shift n)
  | unknownAction e => unknownAction e

/-- An evaluation starts at the first instruction, with an empty accumulator. -/
theorem evaluate_eq_verdictFrom (code : List Instruction) (call : Call) :
    evaluate code call = verdictFrom call.toBytes (enter code 0 0) := rfl

theorem verdictOf_mapError_shift (n : Nat) (result : Except Fault UInt32) :
    verdictOf (result.mapError (Fault.shift n)) =
      (verdictOf result).mapError (EvaluationError.shift n) := by
  cases result with
  | error f => rfl
  | ok value =>
    show verdictOf (.ok value) = _
    rw [verdictOf]
    cases Action.decode value with
    | ok action => rfl
    | error e => rfl

/-- More code in front moves the errors. -/
theorem verdictFrom_shift (n : Nat) (s : State) :
    verdictFrom input (s.shift n) = (verdictFrom input s).mapError (EvaluationError.shift n) := by
  rw [verdictFrom, State.run_shift, verdictOf_mapError_shift, verdictFrom]

/-- A verdict tells whether its run left the code. -/
theorem endsInside_of_verdictOf (hfell : verdictOf result ≠ .error (.fault .fellOffEnd))
    (hjump : ∀ index target,
      verdictOf result ≠ .error (.fault (.jumpOutOfBounds index target))) :
    EndsInside result := by
  cases result with
  | ok value => trivial
  | error f =>
    cases f with
    | loadOutOfBounds index offset => trivial
    | jumpOutOfBounds index target => exact absurd rfl (hjump index target)
    | fellOffEnd => exact absurd rfl hfell

/-! ## Entering longer code -/

theorem enter_behind (pre code : List Instruction) (acc : UInt32) :
    enter (pre ++ code) pre.length acc = (enter code 0 acc).shift pre.length := by
  rw [enter, List.drop_left]
  rfl

/-- **Verdicts do not see where code stands, nor what follows it before they leave it.**  Behind
other code, the code comes to the same verdict through the same states, all moved.  In front of
other code, it comes to the same verdict if it does not leave its own end; if it falls off its end,
it comes to the verdict of what follows, moved, from the accumulator it fell with. -/
theorem verdictFrom_placed (pre code more : List Instruction) (input : List UInt8)
    (acc : UInt32) :
    let alone := enter code 0 acc
    let placed := enter (pre ++ code) pre.length acc
    let longer := enter (code ++ more) 0 acc
    let behind := enter more 0 (alone.final input).acc
    (verdictFrom input placed =
        (verdictFrom input alone).mapError (EvaluationError.shift pre.length) ∧
      placed.visited input = (alone.visited input).map (State.shift pre.length)) ∧
    (verdictFrom input alone ≠ .error (.fault .fellOffEnd) →
      (∀ index target,
        verdictFrom input alone ≠ .error (.fault (.jumpOutOfBounds index target))) →
      verdictFrom input longer = verdictFrom input alone ∧
        longer.visited input = (alone.visited input).map (·.append more)) ∧
    (verdictFrom input alone = .error (.fault .fellOffEnd) →
      alone.final input = ⟨code.length, behind.acc, []⟩ ∧
        verdictFrom input longer =
          (verdictFrom input behind).mapError (EvaluationError.shift code.length) ∧
        longer.visited input = (alone.visited input).map (·.append more) ++
          (behind.visited input).map (State.shift code.length)) := by
  intro alone placed longer behind
  have hplaced : placed = alone.shift pre.length := enter_behind pre code acc
  have hlonger : longer = alone.append more := rfl
  refine ⟨?_, fun hfell hjump => ?_, fun hfell => ?_⟩
  · rw [hplaced]
    exact ⟨verdictFrom_shift pre.length alone, State.visited_shift pre.length alone⟩
  · have hinside : EndsInside (alone.run input) := endsInside_of_verdictOf hfell hjump
    rw [hlonger]
    exact ⟨congrArg verdictOf (State.run_append more hinside), State.visited_append more hinside⟩
  · have hrun : alone.run input = .error .fellOffEnd := verdictOf_eq_fault_iff.mp hfell
    have hend : alone.index + alone.code.length = code.length := Nat.zero_add code.length
    have hbehind : (⟨alone.index + alone.code.length, (alone.final input).acc, more⟩ : State) =
        behind.shift code.length := by
      rw [hend]
      rfl
    refine ⟨?_, ?_, ?_⟩
    · rw [State.final_of_fellOffEnd hrun, hend]
      rfl
    · rw [hlonger, verdictFrom, State.run_append_of_fellOffEnd more hrun, hbehind]
      exact verdictFrom_shift code.length behind
    · rw [hlonger, State.visited_append_of_fellOffEnd more hrun, hbehind,
        State.visited_shift code.length behind]

/-- Code that falls off its end with a loaded word goes on to a jump out of both, whose position and
target count its three instructions.  One load more, and it ends at that load, whatever stands in
front of it or behind. -/
theorem verdictFrom_placed_three_instructions :
    let input : List UInt8 := [5, 0, 0, 0, 9, 0, 0, 0]
    let code : List Instruction := [.load 0, .jump .equal 5 0 1, .load 4]
    let more : List Instruction := [.jump .equal 9 1 0, .ret 0x7fff0000]
    (verdictFrom input (enter code 0 0) = .error (.fault .fellOffEnd) ∧
        verdictFrom input (enter (code ++ more) 0 0) =
          .error (.fault (.jumpOutOfBounds 3 5))) ∧
      verdictFrom input (enter (code ++ [.load 5]) 0 0) =
        .error (.fault (.loadOutOfBounds 3 5)) ∧
      verdictFrom input (enter (code ++ [.load 5] ++ more) 0 0) =
        .error (.fault (.loadOutOfBounds 3 5)) ∧
      verdictFrom input (enter (more ++ (code ++ [.load 5])) 2 0) =
        .error (.fault (.loadOutOfBounds 5 5)) := by
  intro input code more
  have hfell : verdictFrom input (enter code 0 0) = .error (.fault .fellOffEnd) := by cbv
  have hfinal : (enter code 0 0).final input = ⟨3, 9, []⟩ := by cbv
  have hmore : verdictFrom input (enter more 0 9) = .error (.fault (.jumpOutOfBounds 0 2)) := by
    cbv
  have hload : verdictFrom input (enter (code ++ [.load 5]) 0 0) =
      .error (.fault (.loadOutOfBounds 3 5)) := by
    cbv
  obtain ⟨-, -, hfalls⟩ := verdictFrom_placed [] code more input 0
  obtain ⟨⟨hplaced, -⟩, hinside, -⟩ := verdictFrom_placed more (code ++ [.load 5]) more input 0
  refine ⟨⟨hfell, ?_⟩, hload, ?_, ?_⟩
  · rw [(hfalls hfell).2.1, hfinal, hmore]
    rfl
  · rw [(hinside (by rw [hload]; rintro ⟨⟩) (by rw [hload]; rintro _ _ ⟨⟩)).1, hload]
  · refine hplaced.trans ?_
    rw [hload]
    rfl

end TtyGuard.Seccomp
