/-
# TtyGuard.Proofs.Bpf.Ending — where a run ends, and how one run goes on as another

`State.final` is the state in which a run halts, so its accumulator is the last one of the run.
`run_eq_fellOffEnd_iff` says when a run falls off the end of its code: only behind a load that
stands last, since a jump leads to an instruction or is itself the fault.  With more code behind it,
such a run does not end there but goes on as that code does, from the accumulator it fell with:
`run_append_of_fellOffEnd` and `visited_append_of_fellOffEnd` complete what `run_append` says of the
runs that end at one of their instructions.
-/
import TtyGuard.Proofs.Bpf.Relocation

namespace TtyGuard.Bpf.State

variable {input : List UInt8} {s t : State} {result : Except Fault UInt32}

/-! ## The state in which a run halts -/

/-- The last state of a run: the one whose step halts. -/
def final (input : List UInt8) (s : State) : State :=
  match _h : s.step input with
  | .next t => t.final input
  | .halt _ => s
termination_by s.code.length
decreasing_by exact length_code_lt_of_step _h

theorem final_of_next (h : s.step input = .next t) : s.final input = t.final input := by
  rw [final]
  split
  · next u hu =>
    rw [h] at hu
    cases hu
    rfl
  · next hu =>
    rw [h] at hu
    cases hu

theorem final_of_halt (h : s.step input = .halt result) : s.final input = s := by
  rw [final]
  split
  · next hu =>
    rw [h] at hu
    cases hu
  · rfl

/-! ## Falling off the end -/

theorem code_eq_nil_of_step_fellOffEnd (h : s.step input = .halt (.error .fellOffEnd)) :
    s.code = [] := by
  rcases step_halt_cases h with ⟨hcode, -⟩ | ⟨_, _, -, -, hload⟩ | ⟨_, _, _, _, _, -, -, hjump⟩ |
    ⟨_, _, -, hret⟩
  · exact hcode
  · cases hload
  · cases hjump
  · cases hret

/-- Only a load leads behind the last instruction. -/
theorem code_eq_nil_of_step_iff (h : s.step input = .next t) :
    t.code = [] ↔
      ∃ offset word, s.code = [.load offset] ∧ wordAt? input offset = some word := by
  rcases step_next_cases h with ⟨offset, word, rest, hcode, hword, rfl⟩ |
    ⟨condition, k, jt, jf, rest, hcode, hskip, rfl⟩
  · constructor
    · rintro rfl
      exact ⟨offset, word, hcode, hword⟩
    · rintro ⟨offset', word', hcode', -⟩
      cases hcode.symm.trans hcode'
      rfl
  · constructor
    · intro hnil
      exact absurd hskip (Nat.not_lt.mpr (List.drop_eq_nil_iff.mp hnil))
    · rintro ⟨offset, word, hload, -⟩
      cases hcode.symm.trans hload

/-- **Only loads run off the end.**  A run falls off the end of its code exactly if there is no code
or it comes to a last instruction that is a load inside the input. -/
theorem run_eq_fellOffEnd_iff :
    s.run input = .error .fellOffEnd ↔
      s.code = [] ∨ ∃ u ∈ s.visited input, ∃ offset word,
        u.code = [.load offset] ∧ wordAt? input offset = some word := by
  induction s using run_induction input with
  | halt s result h =>
    rw [run_of_halt h, visited_of_halt h]
    constructor
    · rintro rfl
      exact Or.inl (code_eq_nil_of_step_fellOffEnd h)
    · rintro (hcode | ⟨u, hu, offset, word, hcode, hword⟩)
      · obtain ⟨index, acc, code⟩ := s
        subst hcode
        cases h
        rfl
      · -- A load inside the input would not have halted.
        have hsame : u = s := by
          split at hu
          · cases hu
          · exact List.mem_singleton.mp hu
        subst hsame
        obtain ⟨index, acc, code⟩ := u
        subst hcode
        rw [step_load hword] at h
        cases h
  | next s t h ih =>
    have hcode : s.code ≠ [] := by
      intro hnil
      have hlt := length_code_lt_of_step h
      rw [hnil] at hlt
      cases hlt
    rw [run_of_next h, ih, code_eq_nil_of_step_iff h, visited_of_next h]
    constructor
    · rintro (⟨offset, word, hload⟩ | ⟨u, hu, hload⟩)
      · exact Or.inr ⟨s, List.mem_cons_self, offset, word, hload⟩
      · exact Or.inr ⟨u, List.mem_cons_of_mem s hu, hload⟩
    · rintro (hnil | ⟨u, hu, hload⟩)
      · exact absurd hnil hcode
      · rcases List.mem_cons.mp hu with rfl | hu
        · exact Or.inl hload
        · exact Or.inr ⟨u, hu, hload⟩

/-- What holds where no code is left, and of a state if it holds of the next one, holds of every
state whose run falls off the end. -/
theorem fellOffEnd_induction (input : List UInt8)
    {motive : (s : State) → s.run input = .error .fellOffEnd → Prop}
    (fell : ∀ index acc, motive ⟨index, acc, []⟩ run_nil)
    (next : ∀ s t (h : s.step input = .next t) (ht : t.run input = .error .fellOffEnd),
      motive t ht → motive s ((run_of_next h).trans ht))
    (s : State) (hrun : s.run input = .error .fellOffEnd) : motive s hrun := by
  induction s using run_induction input with
  | halt s result h =>
    have hresult : result = .error .fellOffEnd := (run_of_halt h).symm.trans hrun
    subst hresult
    have hcode := code_eq_nil_of_step_fellOffEnd h
    obtain ⟨index, acc, code⟩ := s
    subst hcode
    exact fell index acc
  | next s t h ih =>
    have ht : t.run input = .error .fellOffEnd := (run_of_next h).symm.trans hrun
    exact next s t h ht (ih ht)

@[simp] theorem final_nil (index : Nat) (acc : UInt32) :
    final input ⟨index, acc, []⟩ = ⟨index, acc, []⟩ :=
  final_of_halt step_nil

/-- A run that falls off the end has all of its code in front of it then. -/
theorem final_of_fellOffEnd (hrun : s.run input = .error .fellOffEnd) :
    s.final input = ⟨s.index + s.code.length, (s.final input).acc, []⟩ := by
  induction s, hrun using fellOffEnd_induction input with
  | fell index acc =>
    rw [final_nil]
    rfl
  | next s t h ht ih =>
    rw [final_of_next h, ← index_add_length_of_step h]
    exact ih

/-! ## More code behind -/

/-- **What is behind is reached by falling.**  With more code behind, a run that fell off the end
goes on with that code, from the accumulator it fell with. -/
theorem run_append_of_fellOffEnd (more : List Instruction)
    (hrun : s.run input = .error .fellOffEnd) :
    (s.append more).run input =
      run input ⟨s.index + s.code.length, (s.final input).acc, more⟩ := by
  induction s, hrun using fellOffEnd_induction input with
  | fell index acc =>
    rw [final_nil]
    rfl
  | next s t h ht ih =>
    rw [run_of_next (step_append_next more h), ih, final_of_next h, index_add_length_of_step h]

/-- It has visited its own states before. -/
theorem visited_append_of_fellOffEnd (more : List Instruction)
    (hrun : s.run input = .error .fellOffEnd) :
    (s.append more).visited input = (s.visited input).map (·.append more) ++
      visited input ⟨s.index + s.code.length, (s.final input).acc, more⟩ := by
  induction s, hrun using fellOffEnd_induction input with
  | fell index acc =>
    rw [final_nil, visited_of_halt step_nil]
    rfl
  | next s t h ht ih =>
    rw [visited_of_next (step_append_next more h), visited_of_next h, ih, final_of_next h,
      index_add_length_of_step h]
    rfl

end TtyGuard.Bpf.State
