/-
# TtyGuard.Proofs.Bpf.Execution — what a step can do, and what a run inherits from it

`step_next_cases` and `step_halt_cases` say everything that one instruction can lead to; nothing
after them opens `step` again.  A run is then handled by one induction, `run_induction`, and what it
passes through by one invariant rule, `forall_visited`.  For every list of instructions, sound or
not:

  * the counted position is the real one (`located_of_mem_visited`), and it only grows
    (`pairwise_index_visited`);
  * no more instructions are executed than there are (`length_visited_le`);
  * a run that does not fall off the end is decided by the last instruction it visits
    (`getLast?_visited`).
-/
import TtyGuard.Bpf.Machine

namespace TtyGuard.Bpf

/-- How many instructions a jump skips for an accumulator. -/
def branchSkip (condition : Condition) (k : UInt32) (jt jf : UInt8) (acc : UInt32) : Nat :=
  (if condition.holds acc k then jt else jf).toNat

namespace State

variable {input : List UInt8} {s t : State} {code rest : List Instruction} {index : Nat}
  {acc : UInt32}

/-! ## One step, by the instruction in front -/

@[simp] theorem step_nil : step input ⟨index, acc, []⟩ = .halt (.error .fellOffEnd) := rfl

@[simp] theorem step_ret (k : UInt32) :
    step input ⟨index, acc, .ret k :: rest⟩ = .halt (.ok k) := rfl

theorem step_load {offset word : UInt32} (h : wordAt? input offset = some word) :
    step input ⟨index, acc, .load offset :: rest⟩ = .next ⟨index + 1, word, rest⟩ := by
  simp only [step, h]

theorem step_load_fault {offset : UInt32} (h : wordAt? input offset = none) :
    step input ⟨index, acc, .load offset :: rest⟩ =
      .halt (.error (.loadOutOfBounds index offset)) := by
  simp only [step, h]

theorem step_jump {condition : Condition} {k : UInt32} {jt jf : UInt8}
    (h : branchSkip condition k jt jf acc < rest.length) :
    step input ⟨index, acc, .jump condition k jt jf :: rest⟩ =
      .next ⟨index + 1 + branchSkip condition k jt jf acc, acc,
        rest.drop (branchSkip condition k jt jf acc)⟩ := by
  have hne : rest.drop (branchSkip condition k jt jf acc) ≠ [] := by
    intro hnil
    rw [List.drop_eq_nil_iff] at hnil
    omega
  unfold branchSkip at hne ⊢
  -- `hne` selects the second alternative of the step.
  simp only [step]

theorem step_jump_fault {condition : Condition} {k : UInt32} {jt jf : UInt8}
    (h : rest.length ≤ branchSkip condition k jt jf acc) :
    step input ⟨index, acc, .jump condition k jt jf :: rest⟩ =
      .halt (.error (.jumpOutOfBounds index (index + 1 + branchSkip condition k jt jf acc))) := by
  have hnil : rest.drop (branchSkip condition k jt jf acc) = [] := List.drop_eq_nil_iff.mpr h
  unfold branchSkip at hnil ⊢
  simp only [step, hnil]

/-- A step goes on from a load inside the input or from a jump inside the code. -/
theorem step_next_cases (h : s.step input = .next t) :
    (∃ offset word rest, s.code = .load offset :: rest ∧ wordAt? input offset = some word ∧
      t = ⟨s.index + 1, word, rest⟩) ∨
    (∃ condition k jt jf rest, s.code = .jump condition k jt jf :: rest ∧
      branchSkip condition k jt jf s.acc < rest.length ∧
      t = ⟨s.index + 1 + branchSkip condition k jt jf s.acc, s.acc,
        rest.drop (branchSkip condition k jt jf s.acc)⟩) := by
  obtain ⟨index, acc, code⟩ := s
  match code with
  | [] => cases h
  | .load offset :: rest =>
    cases hword : wordAt? input offset with
    | none =>
      rw [step_load_fault hword] at h
      cases h
    | some word =>
      rw [step_load hword] at h
      cases h
      exact Or.inl ⟨offset, word, rest, rfl, hword, rfl⟩
  | .jump condition k jt jf :: rest =>
    by_cases hskip : branchSkip condition k jt jf acc < rest.length
    · rw [step_jump hskip] at h
      cases h
      exact Or.inr ⟨condition, k, jt, jf, rest, rfl, hskip, rfl⟩
    · rw [step_jump_fault (Nat.not_lt.mp hskip)] at h
      cases h
  | .ret k :: rest => cases h

/-- A step halts where there is no code, at a load outside the input, at a jump outside the code
or at a return. -/
theorem step_halt_cases {result : Except Fault UInt32} (h : s.step input = .halt result) :
    (s.code = [] ∧ result = .error .fellOffEnd) ∨
    (∃ offset rest, s.code = .load offset :: rest ∧ wordAt? input offset = none ∧
      result = .error (.loadOutOfBounds s.index offset)) ∨
    (∃ condition k jt jf rest, s.code = .jump condition k jt jf :: rest ∧
      rest.length ≤ branchSkip condition k jt jf s.acc ∧
      result = .error
        (.jumpOutOfBounds s.index (s.index + 1 + branchSkip condition k jt jf s.acc))) ∨
    (∃ k rest, s.code = .ret k :: rest ∧ result = .ok k) := by
  obtain ⟨index, acc, code⟩ := s
  match code with
  | [] =>
    cases h
    exact Or.inl ⟨rfl, rfl⟩
  | .load offset :: rest =>
    cases hword : wordAt? input offset with
    | none =>
      rw [step_load_fault hword] at h
      cases h
      exact Or.inr (Or.inl ⟨offset, rest, rfl, hword, rfl⟩)
    | some word =>
      rw [step_load hword] at h
      cases h
  | .jump condition k jt jf :: rest =>
    by_cases hskip : branchSkip condition k jt jf acc < rest.length
    · rw [step_jump hskip] at h
      cases h
    · rw [step_jump_fault (Nat.not_lt.mp hskip)] at h
      cases h
      exact Or.inr (Or.inr (Or.inl
        ⟨condition, k, jt, jf, rest, rfl, Nat.not_lt.mp hskip, rfl⟩))
  | .ret k :: rest =>
    cases h
    exact Or.inr (Or.inr (Or.inr ⟨k, rest, rfl, rfl⟩))

/-! ## Runs -/

/-- What holds of every halting state, and of a state if it holds of the next one, holds of every
state: each step leaves less code. -/
theorem run_induction (input : List UInt8) {motive : State → Prop}
    (halt : ∀ s result, s.step input = .halt result → motive s)
    (next : ∀ s t, s.step input = .next t → motive t → motive s) (s : State) : motive s := by
  match h : s.step input with
  | .halt result => exact halt s result h
  | .next t => exact next s t h (run_induction input halt next t)
termination_by s.code.length
decreasing_by exact length_code_lt_of_step h

@[simp] theorem run_nil : run input ⟨index, acc, []⟩ = .error .fellOffEnd :=
  run_of_halt step_nil

@[simp] theorem run_ret (k : UInt32) : run input ⟨index, acc, .ret k :: rest⟩ = .ok k :=
  run_of_halt (step_ret k)

/-- **The invariant rule.**  What every step keeps holds of every state that a run visits. -/
theorem forall_visited {P : State → Prop}
    (hstep : ∀ s t, P s → s.step input = .next t → P t) (hs : P s) :
    ∀ u ∈ s.visited input, P u := by
  induction s using run_induction input with
  | halt s result h =>
    rw [visited_of_halt h]
    intro u hu
    split at hu
    · exact absurd hu List.not_mem_nil
    · rw [List.mem_singleton.mp hu]
      exact hs
  | next s t h ih =>
    rw [visited_of_next h]
    intro u hu
    rcases List.mem_cons.mp hu with rfl | hu
    · exact hs
    · exact ih (hstep s t hs h) u hu

/-- Every visited state stands in front of an instruction. -/
theorem code_ne_nil_of_mem_visited : ∀ u ∈ s.visited input, u.code ≠ [] := by
  induction s using run_induction input with
  | halt s result h =>
    rw [visited_of_halt h]
    intro u hu
    split at hu
    · exact absurd hu List.not_mem_nil
    · next hcode =>
      rw [List.mem_singleton.mp hu]
      simpa using hcode
  | next s t h ih =>
    rw [visited_of_next h]
    intro u hu
    rcases List.mem_cons.mp hu with rfl | hu
    · intro hnil
      have hstep := step_next_cases h
      simp [hnil] at hstep
    · exact ih u hu

/-- A run that does not fall off the end is decided by the last state it visits. -/
theorem getLast?_visited (hrun : s.run input ≠ .error .fellOffEnd) :
    ∃ u, (s.visited input).getLast? = some u ∧ u.step input = .halt (s.run input) := by
  induction s using run_induction input with
  | halt s result h =>
    have hcode : s.code ≠ [] := by
      intro hnil
      obtain ⟨index, acc, code⟩ := s
      subst hnil
      exact hrun run_nil
    refine ⟨s, ?_, ?_⟩
    · rw [visited_of_halt h, if_neg (by simpa using hcode)]
      rfl
    · rw [run_of_halt h, h]
  | next s t h ih =>
    rw [run_of_next h] at hrun ⊢
    obtain ⟨u, hlast, hhalt⟩ := ih hrun
    refine ⟨u, ?_, hhalt⟩
    rw [visited_of_next h, List.getLast?_cons, hlast]
    rfl

/-- From each state that it visits on, a run is the run of that state. -/
theorem run_and_suffix_of_mem_visited {u : State} (hu : u ∈ s.visited input) :
    s.run input = u.run input ∧ u.visited input <:+ s.visited input := by
  induction s using run_induction input with
  | halt s result h =>
    have hsame : u = s := by
      rw [visited_of_halt h] at hu
      split at hu
      · exact absurd hu List.not_mem_nil
      · exact List.mem_singleton.mp hu
    rw [hsame]
    exact ⟨rfl, List.suffix_rfl⟩
  | next s t h ih =>
    rw [visited_of_next h] at hu
    rcases List.mem_cons.mp hu with rfl | hu
    · exact ⟨rfl, List.suffix_rfl⟩
    · obtain ⟨hrun, hsuffix⟩ := ih hu
      rw [run_of_next h, visited_of_next h]
      exact ⟨hrun, hsuffix.trans (List.suffix_cons s _)⟩

/-! ## Instructions in turn -/

/-- The states of a machine that takes `n` instructions in turn and keeps its accumulator. -/
def inTurn : Nat → State → List State
  | 0, _ => []
  | n + 1, s => s :: inTurn n ⟨s.index + 1, s.acc, s.code.drop 1⟩

/-- These are the states at the next `n` positions, each with the code that is left there. -/
theorem mem_inTurn_iff {n : Nat} {u : State} :
    u ∈ s.inTurn n ↔ ∃ i < n, u = ⟨s.index + i, s.acc, s.code.drop i⟩ := by
  induction n generalizing s with
  | zero => simp [inTurn]
  | succ n ih =>
    rw [inTurn, List.mem_cons, ih]
    constructor
    · rintro (rfl | ⟨i, hi, rfl⟩)
      · exact ⟨0, Nat.zero_lt_succ n, rfl⟩
      · refine ⟨i + 1, Nat.succ_lt_succ hi, ?_⟩
        rw [List.drop_drop, Nat.add_comm i, Nat.add_assoc]
    · rintro ⟨i, hi, rfl⟩
      cases i with
      | zero => exact Or.inl rfl
      | succ i =>
        refine Or.inr ⟨i, Nat.lt_of_succ_lt_succ hi, ?_⟩
        rw [List.drop_drop, Nat.add_comm i, Nat.add_assoc]

theorem inTurn_add (m n : Nat) (s : State) :
    s.inTurn (m + n) = s.inTurn m ++ inTurn n ⟨s.index + m, s.acc, s.code.drop m⟩ := by
  induction m generalizing s with
  | zero => rw [Nat.zero_add]; rfl
  | succ m ih =>
    rw [Nat.succ_add, inTurn, inTurn, ih, List.drop_drop, List.cons_append, Nat.add_comm 1 m,
      Nat.add_assoc, Nat.add_comm 1 m]

/-- A run from `s` takes `n` instructions in turn, keeps its accumulator and goes on from `t`. -/
structure Passes (input : List UInt8) (n : Nat) (s t : State) : Prop where
  run : s.run input = t.run input
  visited : s.visited input = s.inTurn n ++ t.visited input

theorem Passes.of_step (h : s.step input = .next t) : Passes input 1 s t :=
  ⟨run_of_next h, visited_of_next h⟩

theorem Passes.refl (s : State) : Passes input 0 s s := ⟨rfl, rfl⟩

/-- The second part has to begin behind the instructions that the first one takes. -/
theorem Passes.trans {m n : Nat} {u : State} (hs : Passes input m s t) (ht : Passes input n t u)
    (hbehind : t = ⟨s.index + m, s.acc, s.code.drop m⟩) : Passes input (m + n) s u := by
  constructor
  · rw [hs.run, ht.run]
  · rw [hs.visited, ht.visited, inTurn_add, ← hbehind, List.append_assoc]

/-! ## Positions -/

/-- The state's code is what is left of `code` behind the counted position. -/
def Located (code : List Instruction) (s : State) : Prop :=
  s.code = code.drop s.index

theorem located_start : Located code (start code) := rfl

/-- A step moves the position by as much as it takes off the code. -/
theorem Located.step (hs : Located code s) (h : s.step input = .next t) : Located code t := by
  have hdrop {ix : Instruction} {rest : List Instruction} (hcode : s.code = ix :: rest) :
      rest = code.drop (s.index + 1) := by
    rw [← List.drop_drop, ← hs, hcode, List.drop_one, List.tail_cons]
  rcases step_next_cases h with ⟨offset, word, rest, hcode, -, rfl⟩ |
    ⟨condition, k, jt, jf, rest, hcode, -, rfl⟩
  · exact hdrop hcode
  · show rest.drop _ = code.drop _
    rw [hdrop hcode, List.drop_drop]

theorem located_of_mem_visited (hs : Located code s) :
    ∀ u ∈ s.visited input, Located code u :=
  forall_visited (fun _ _ hs h => hs.step h) hs

theorem located_of_mem_visited_start : ∀ u ∈ (start code).visited input, Located code u :=
  located_of_mem_visited located_start

/-- The instruction in front of a located state is the one at its position. -/
theorem Located.getElem? {ix : Instruction} (hs : Located code s) (hcode : s.code = ix :: rest) :
    code[s.index]? = some ix := by
  rw [← List.head?_drop, ← hs, hcode, List.head?_cons]

/-- What stands in front of a located state, by its position. -/
theorem Located.code_eq {ix : Instruction} (hs : Located code s)
    (hix : code[s.index]? = some ix) : s.code = ix :: code.drop (s.index + 1) := by
  obtain ⟨hlt, hget⟩ := List.getElem?_eq_some_iff.mp hix
  rw [hs, List.drop_eq_getElem_cons hlt, hget]

theorem Located.step_eq {ix : Instruction} (hs : Located code s)
    (hix : code[s.index]? = some ix) :
    s.step input = State.step input ⟨s.index, s.acc, ix :: code.drop (s.index + 1)⟩ := by
  rw [← hs.code_eq hix]

theorem Located.length_eq (hs : Located code s) : s.code.length = code.length - s.index := by
  rw [hs, List.length_drop]

theorem Located.index_lt (hs : Located code s) (hcode : s.code ≠ []) : s.index < code.length := by
  rw [hs, ne_eq, List.drop_eq_nil_iff] at hcode
  omega

theorem index_lt_of_step (h : s.step input = .next t) : s.index < t.index := by
  rcases step_next_cases h with ⟨_, _, _, _, _, rfl⟩ | ⟨_, _, _, _, _, _, _, rfl⟩
  · exact Nat.lt_succ_self s.index
  · show s.index < s.index + 1 + _
    omega

/-- The positions of the visited states strictly increase. -/
theorem pairwise_index_visited :
    (s.visited input).Pairwise fun u v => u.index < v.index := by
  induction s using run_induction input with
  | halt s result h =>
    rw [visited_of_halt h]
    split
    · exact List.Pairwise.nil
    · exact List.pairwise_singleton _ s
  | next s t h ih =>
    rw [visited_of_next h, List.pairwise_cons]
    refine ⟨?_, ih⟩
    -- The position never falls behind that of the second state.
    have hlt : s.index < t.index := index_lt_of_step h
    exact forall_visited (fun u v hu huv => Nat.lt_trans hu (index_lt_of_step huv)) hlt

/-- What a step takes off the code it adds to the position. -/
theorem index_add_length_of_step (h : s.step input = .next t) :
    t.index + t.code.length = s.index + s.code.length := by
  rcases step_next_cases h with ⟨offset, word, rest, hcode, -, rfl⟩ |
    ⟨condition, k, jt, jf, rest, hcode, hskip, rfl⟩
  · rw [hcode, List.length_cons]
    show s.index + 1 + rest.length = _
    omega
  · rw [hcode, List.length_cons]
    show s.index + 1 + branchSkip condition k jt jf s.acc + (rest.drop _).length = _
    rw [List.length_drop]
    omega

theorem index_lt_of_mem_visited :
    ∀ u ∈ s.visited input, u.index < s.index + s.code.length := by
  intro u hu
  have hsum : u.index + u.code.length = s.index + s.code.length := by
    refine forall_visited (P := fun u => u.index + u.code.length = s.index + s.code.length) ?_ rfl u hu
    intro v w hv hvw
    rw [index_add_length_of_step hvw, hv]
  have hne : u.code ≠ [] := code_ne_nil_of_mem_visited u hu
  have hpos : 0 < u.code.length := List.length_pos_iff.mpr hne
  omega

theorem le_index_of_mem_visited : ∀ u ∈ s.visited input, s.index ≤ u.index := by
  refine forall_visited ?_ (Nat.le_refl s.index)
  intro v w hv hvw
  exact Nat.le_trans hv (Nat.le_of_lt (index_lt_of_step hvw))

theorem mem_visited_self (hcode : s.code ≠ []) : s ∈ s.visited input := by
  cases h : s.step input with
  | next t =>
    rw [visited_of_next h]
    exact List.mem_cons_self
  | halt result =>
    rw [visited_of_halt h, if_neg (by simpa using hcode)]
    exact List.mem_singleton_self s

/-- A run executes no more instructions than there are. -/
theorem length_visited_le : (s.visited input).length ≤ s.code.length := by
  induction s using run_induction input with
  | halt s result h =>
    rw [visited_of_halt h]
    cases hcode : s.code with
    | nil => simp
    | cons ix rest => simp
  | next s t h ih =>
    have hlt : t.code.length < s.code.length := length_code_lt_of_step h
    rw [visited_of_next h, List.length_cons]
    omega

end State

end TtyGuard.Bpf
