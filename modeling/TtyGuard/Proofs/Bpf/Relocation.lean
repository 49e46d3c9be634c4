/-
# TtyGuard.Proofs.Bpf.Relocation — the same code elsewhere, and with more code behind it

Jumps are relative and only go forwards, so code does not see where it stands: `run_shift` moves a
run by any number of instructions and changes nothing but the positions that its faults report and
that `visited_shift` counts.  Nor does it see what follows it until it leaves its own end:
`run_append` carries a run that ended at one of its instructions over to any longer code.
-/
import TtyGuard.Proofs.Bpf.Execution

namespace TtyGuard.Bpf

/-- A run that was ended by one of its instructions, and not by leaving the code. -/
def EndsInside : Except Fault UInt32 → Prop
  | .ok _ => True
  | .error (.loadOutOfBounds _ _) => True
  | .error (.jumpOutOfBounds _ _) => False
  | .error .fellOffEnd => False

namespace State

variable {input : List UInt8} {s t : State} {result : Except Fault UInt32}

/-! ## More code in front -/

/-- The same state with `n` more instructions in front of it. -/
def shift (n : Nat) (s : State) : State := { s with index := n + s.index }

theorem step_shift_next (n : Nat) (h : s.step input = .next t) :
    (s.shift n).step input = .next (t.shift n) := by
  obtain ⟨index, acc, code⟩ := s
  rcases step_next_cases h with ⟨offset, word, rest, rfl, hword, rfl⟩ |
    ⟨condition, k, jt, jf, rest, rfl, hskip, rfl⟩
  · exact step_load hword
  · show step input ⟨n + index, acc, .jump condition k jt jf :: rest⟩ = _
    rw [step_jump hskip]
    simp only [shift, Nat.add_assoc]

theorem step_shift_halt (n : Nat) (h : s.step input = .halt result) :
    (s.shift n).step input = .halt (result.mapError (Fault.shift n)) := by
  obtain ⟨index, acc, code⟩ := s
  rcases step_halt_cases h with ⟨rfl, rfl⟩ | ⟨offset, rest, rfl, hword, rfl⟩ |
    ⟨condition, k, jt, jf, rest, rfl, hskip, rfl⟩ | ⟨k, rest, rfl, rfl⟩
  · rfl
  · exact step_load_fault hword
  · show step input ⟨n + index, acc, .jump condition k jt jf :: rest⟩ = _
    rw [step_jump_fault hskip]
    simp only [Nat.add_assoc]
    rfl
  · rfl

/-- **Runs are position independent.**  Moved by `n` instructions, a run ends in the same way, and
the positions in its faults move with it. -/
theorem run_shift (n : Nat) (s : State) :
    (s.shift n).run input = (s.run input).mapError (Fault.shift n) := by
  induction s using run_induction input with
  | halt s result h => rw [run_of_halt h, run_of_halt (step_shift_halt n h)]
  | next s t h ih => rw [run_of_next h, run_of_next (step_shift_next n h), ih]

/-- A run at position `index`, seen from the first instruction of its own code. -/
theorem run_eq_mapError (index : Nat) (acc : UInt32) (code : List Instruction) :
    run input ⟨index, acc, code⟩ = (run input ⟨0, acc, code⟩).mapError (Fault.shift index) :=
  run_shift index ⟨0, acc, code⟩

/-- Moved by `n` instructions, a run visits the same states, moved as well. -/
theorem visited_shift (n : Nat) (s : State) :
    (s.shift n).visited input = (s.visited input).map (·.shift n) := by
  induction s using run_induction input with
  | halt s result h =>
    rw [visited_of_halt h, visited_of_halt (step_shift_halt n h)]
    show (if s.code.isEmpty then _ else _) = _
    split
    · rfl
    · rfl
  | next s t h ih =>
    rw [visited_of_next h, visited_of_next (step_shift_next n h), ih, List.map_cons]

/-! ## More code behind -/

/-- The same state with `more` behind its code. -/
def append (s : State) (more : List Instruction) : State := { s with code := s.code ++ more }

theorem step_append_next (more : List Instruction) (h : s.step input = .next t) :
    (s.append more).step input = .next (t.append more) := by
  obtain ⟨index, acc, code⟩ := s
  rcases step_next_cases h with ⟨offset, word, rest, rfl, hword, rfl⟩ |
    ⟨condition, k, jt, jf, rest, rfl, hskip, rfl⟩
  · exact step_load hword
  · have hlong : branchSkip condition k jt jf acc < (rest ++ more).length := by
      rw [List.length_append]
      exact Nat.lt_add_right _ hskip
    show step input ⟨index, acc, .jump condition k jt jf :: (rest ++ more)⟩ = _
    rw [step_jump hlong, List.drop_append_of_le_length (Nat.le_of_lt hskip)]
    rfl

theorem step_append_halt (more : List Instruction) (h : s.step input = .halt result)
    (hinside : EndsInside result) : (s.append more).step input = .halt result := by
  obtain ⟨index, acc, code⟩ := s
  rcases step_halt_cases h with ⟨rfl, rfl⟩ | ⟨offset, rest, rfl, hword, rfl⟩ |
    ⟨condition, k, jt, jf, rest, rfl, -, rfl⟩ | ⟨k, rest, rfl, rfl⟩
  · exact hinside.elim
  · exact step_load_fault hword
  · exact hinside.elim
  · rfl

/-- Where no code is left, nothing is there to end a run. -/
theorem code_ne_nil_of_step_inside (h : s.step input = .halt result)
    (hinside : EndsInside result) : s.code ≠ [] := by
  intro hnil
  obtain ⟨index, acc, code⟩ := s
  subst hnil
  cases h
  exact hinside

/-- **What is never reached does not matter.**  A run that ends at one of its instructions ends in
the same way with more code behind. -/
theorem run_append (more : List Instruction) (hinside : EndsInside (s.run input)) :
    (s.append more).run input = s.run input := by
  induction s using run_induction input with
  | halt s result h =>
    rw [run_of_halt h] at hinside ⊢
    exact run_of_halt (step_append_halt more h hinside)
  | next s t h ih =>
    rw [run_of_next h] at hinside ⊢
    rw [run_of_next (step_append_next more h), ih hinside]

/-- A run that ends at one of its instructions visits the same states with more code behind. -/
theorem visited_append (more : List Instruction) (hinside : EndsInside (s.run input)) :
    (s.append more).visited input = (s.visited input).map (·.append more) := by
  induction s using run_induction input with
  | halt s result h =>
    rw [run_of_halt h] at hinside
    have hcode : s.code ≠ [] := code_ne_nil_of_step_inside h hinside
    have hlong : (s.append more).code ≠ [] := List.append_ne_nil_of_left_ne_nil hcode more
    rw [visited_of_halt h, if_neg (by simpa using hcode),
      visited_of_halt (step_append_halt more h hinside), if_neg (by simpa using hlong)]
    rfl
  | next s t h ih =>
    rw [run_of_next h] at hinside
    rw [visited_of_next h, visited_of_next (step_append_next more h), ih hinside]
    rfl

end State

end TtyGuard.Bpf
