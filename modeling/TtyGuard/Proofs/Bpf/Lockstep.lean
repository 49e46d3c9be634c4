/-
# TtyGuard.Proofs.Bpf.Lockstep — two runs of the same code

The input reaches a run through its loads and nowhere else.  If two inputs have the same words, or
none, at the offsets that code loads from, the machine takes the same steps on both: `step_congr` for
one step and `visited_congr` and `run_congr` for a whole run.  The code left after a step is an end
of the code before it (`code_suffix_of_step`), so what was assumed of its loads still holds.
-/
import TtyGuard.Proofs.Bpf.Execution

namespace TtyGuard.Bpf

/-- Every load of the code finds the same in both inputs: a word, or nothing. -/
def ReadsAlike (input input' : List UInt8) (code : List Instruction) : Prop :=
  ∀ offset, .load offset ∈ code → wordAt? input offset = wordAt? input' offset

namespace State

variable {input input' : List UInt8} {s t : State}

theorem code_suffix_of_step (h : s.step input = .next t) : t.code <:+ s.code := by
  rcases step_next_cases h with ⟨offset, word, rest, hcode, -, rfl⟩ |
    ⟨condition, k, jt, jf, rest, hcode, -, rfl⟩
  · rw [hcode]
    exact List.suffix_cons _ _
  · rw [hcode]
    exact (List.drop_suffix _ _).trans (List.suffix_cons _ _)

/-- One step looks at the input only if it is a load. -/
theorem step_congr (h : ReadsAlike input input' s.code) : s.step input = s.step input' := by
  obtain ⟨index, acc, code⟩ := s
  match code with
  | [] => rfl
  | .load offset :: rest =>
    have hword : wordAt? input offset = wordAt? input' offset := h offset List.mem_cons_self
    simp only [step, hword]
  | .jump condition k jt jf :: rest => rfl
  | .ret k :: rest => rfl

theorem readsAlike_of_step (h : ReadsAlike input input' s.code) (hstep : s.step input = .next t) :
    ReadsAlike input input' t.code :=
  fun offset hload => h offset ((code_suffix_of_step hstep).subset hload)

/-- Two runs in lock-step pass through the same states, positions and accumulators included. -/
theorem visited_congr (h : ReadsAlike input input' s.code) :
    s.visited input = s.visited input' := by
  induction s using run_induction input with
  | halt s result hstep =>
    rw [visited_of_halt hstep, visited_of_halt ((step_congr h).symm.trans hstep)]
  | next s t hstep ih =>
    rw [visited_of_next hstep, visited_of_next ((step_congr h).symm.trans hstep),
      ih (readsAlike_of_step h hstep)]

/-- Two runs in lock-step end alike, also in a fault. -/
theorem run_congr (h : ReadsAlike input input' s.code) : s.run input = s.run input' := by
  induction s using run_induction input with
  | halt s result hstep =>
    rw [run_of_halt hstep, run_of_halt ((step_congr h).symm.trans hstep)]
  | next s t hstep ih =>
    rw [run_of_next hstep, run_of_next ((step_congr h).symm.trans hstep),
      ih (readsAlike_of_step h hstep)]

end State

end TtyGuard.Bpf
