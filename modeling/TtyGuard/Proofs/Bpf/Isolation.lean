/-
# TtyGuard.Proofs.Bpf.Isolation — when a fallback stays out of the matched body

A statement under several terms has its fallback in front of the matched body and asks only that the
fallback's last instruction returns.  Jumps inside the fallback may still lead past that return.
`isolated_iff` says exactly when they do: the matched body is entered, although no term holds, if and
only if the fallback on its own would jump past its end by less than the body's length.
`fallback_enters_matched` is a statement that the builder lays out and that is not isolated.

Underneath, a run that jumps out of its code is compared with the run of the same code that has more
behind it (`visited_append_of_jumpOut`), and `visited_append_avoids_iff` says which of the
instructions behind it are met.
-/
import TtyGuard.Proofs.Bpf.Branching
import TtyGuard.Proofs.Bpf.Relocation

namespace TtyGuard.Bpf

open Statement (endsInReturn termJumps)

namespace State

variable {input : List UInt8} {s t : State} {code rest : List Instruction} {index : Nat}
  {acc : UInt32}

/-- The state stands in front of one of `length` instructions, the first of them at `first`. -/
def Within (first length : Nat) (s : State) : Prop := first ≤ s.index ∧ s.index < first + length

instance (first length : Nat) (s : State) : Decidable (s.Within first length) :=
  inferInstanceAs (Decidable (_ ∧ _))

/-! ## A return at the end -/

theorem endsInReturn_of_step (hreturn : endsInReturn s.code = true) (h : s.step input = .next t) :
    endsInReturn t.code = true := by
  have hlast {ix : Instruction} {rest : List Instruction} {n : Nat} (hcode : s.code = ix :: rest)
      (hn : n < rest.length) : endsInReturn (rest.drop n) = true := by
    rw [endsInReturn, List.getLast?_drop, if_neg (Nat.not_le.mpr hn)]
    rw [hcode, endsInReturn, List.getLast?_cons] at hreturn
    cases hrest : rest.getLast? with
    | none =>
      rw [List.getLast?_eq_none_iff.mp hrest] at hn
      cases hn
    | some last =>
      rw [hrest] at hreturn
      exact hreturn
  rcases step_next_cases h with ⟨offset, word, rest, hcode, -, rfl⟩ |
    ⟨condition, k, jt, jf, rest, hcode, hskip, rfl⟩
  · have hne : 0 < rest.length := by
      -- A load is no return, so something stands behind it.
      refine List.length_pos_iff.mpr ?_
      rintro rfl
      rw [hcode] at hreturn
      cases hreturn
    exact hlast hcode hne
  · exact hlast hcode hskip

/-- Code that ends in a return is left by a jump or not at all. -/
theorem run_ne_fellOffEnd (hreturn : endsInReturn s.code = true) :
    s.run input ≠ .error .fellOffEnd := by
  induction s using run_induction input with
  | halt s result h =>
    rw [run_of_halt h]
    rcases step_halt_cases h with ⟨hcode, -⟩ | ⟨_, _, -, -, rfl⟩ | ⟨_, _, _, _, _, -, -, rfl⟩ |
      ⟨_, _, -, rfl⟩
    · rw [hcode] at hreturn
      cases hreturn
    · exact fun h => nomatch h
    · exact fun h => nomatch h
    · exact fun h => nomatch h
  | next s t h ih =>
    rw [run_of_next h]
    exact ih (endsInReturn_of_step hreturn h)

/-- Where code stands does not matter for whether its run leaves it. -/
theorem endsInside_run_iff (index : Nat) (acc : UInt32) (code : List Instruction) :
    EndsInside (run input ⟨index, acc, code⟩) ↔ EndsInside (run input ⟨0, acc, code⟩) := by
  rw [run_eq_mapError index]
  cases run input ⟨0, acc, code⟩ with
  | ok k => exact Iff.rfl
  | error fault =>
    cases fault with
    | loadOutOfBounds i offset => exact Iff.rfl
    | jumpOutOfBounds i target => exact Iff.rfl
    | fellOffEnd => exact Iff.rfl

theorem exists_jumpOut_of_not_endsInside (hreturn : endsInReturn s.code = true)
    (h : ¬ EndsInside (s.run input)) :
    ∃ i target, s.run input = .error (.jumpOutOfBounds i target) := by
  have hnever : s.run input ≠ .error .fellOffEnd := run_ne_fellOffEnd hreturn
  cases hrun : s.run input with
  | ok k =>
    rw [hrun] at h
    exact absurd trivial h
  | error fault =>
    rw [hrun] at h hnever
    cases fault with
    | loadOutOfBounds i offset => exact absurd trivial h
    | jumpOutOfBounds i target => exact ⟨i, target, rfl⟩
    | fellOffEnd => exact absurd rfl hnever

/-! ## More code behind -/

theorem index_lt_of_mem_visited_append (more : List Instruction)
    (hinside : EndsInside (s.run input)) :
    ∀ u ∈ (s.append more).visited input, u.index < s.index + s.code.length := by
  intro u hu
  rw [visited_append more hinside] at hu
  obtain ⟨v, hv, rfl⟩ := List.mem_map.mp hu
  exact index_lt_of_mem_visited v hv

/-- A run that jumps out of its code goes on, with more code behind, at the place it jumps to. -/
theorem visited_append_of_jumpOut {i target : Nat} (more : List Instruction)
    (hrun : s.run input = .error (.jumpOutOfBounds i target)) :
    s.index + s.code.length ≤ target ∧
    ∃ before acc,
      (s.append more).visited input = before ++
        visited input ⟨target, acc, more.drop (target - (s.index + s.code.length))⟩ ∧
      ∀ u ∈ before, u.index < s.index + s.code.length := by
  induction s using run_induction input with
  | halt s result h =>
    rw [run_of_halt h] at hrun
    subst hrun
    obtain ⟨index, acc, code⟩ := s
    rcases step_halt_cases h with ⟨-, hend⟩ | ⟨_, _, -, -, hload⟩ |
      ⟨condition, k, jt, jf, rest, rfl, hskip, hjump⟩ | ⟨_, _, -, hret⟩
    · cases hend
    · cases hload
    · cases hjump
      dsimp only at hskip ⊢
      rw [List.length_cons]
      refine ⟨by omega, [⟨index, acc, .jump condition k jt jf :: (rest ++ more)⟩], acc, ?_, ?_⟩
      · have hdistance : index + 1 + branchSkip condition k jt jf acc - (index + (rest.length + 1)) =
            branchSkip condition k jt jf acc - rest.length := by omega
        rw [hdistance]
        show visited input ⟨index, acc, .jump condition k jt jf :: (rest ++ more)⟩ = _
        -- The place it jumps to lies in `more` or behind it; there nothing is visited.
        by_cases hreach : branchSkip condition k jt jf acc < (rest ++ more).length
        · rw [visited_of_next (step_jump hreach), List.drop_append, List.drop_eq_nil_of_le hskip]
          rfl
        · have hbehind : more.drop (branchSkip condition k jt jf acc - rest.length) = [] := by
            rw [List.length_append] at hreach
            rw [List.drop_eq_nil_iff]
            omega
          rw [visited_of_halt (step_jump_fault (Nat.not_lt.mp hreach)), hbehind,
            visited_of_halt step_nil]
          rfl
      · intro u hu
        rw [List.mem_singleton.mp hu]
        show index < _
        omega
    · cases hret
  | next s t h ih =>
    rw [run_of_next h] at hrun
    obtain ⟨hle, before, acc, hvisited, hbefore⟩ := ih hrun
    rw [index_add_length_of_step h] at hle hvisited hbefore
    refine ⟨hle, s.append more :: before, acc, ?_, ?_⟩
    · rw [visited_of_next (step_append_next more h), hvisited]
      rfl
    · intro u hu
      rcases List.mem_cons.mp hu with rfl | hu
      · show s.index < _
        have hsum := index_add_length_of_step h
        have hlt := index_lt_of_step h
        have hcode := length_code_lt_of_step h
        omega
      · exact hbefore u hu

/-- Code that ends in a return runs none of the `n` instructions behind it exactly if on its own it
jumps to no place among them. -/
theorem visited_append_avoids_iff {n : Nat} (hreturn : endsInReturn code = true)
    (more : List Instruction) (hn : n ≤ more.length) (index : Nat) (acc : UInt32) :
    (∀ u ∈ visited input (append ⟨index, acc, code⟩ more), ¬ u.Within (index + code.length) n) ↔
      ∀ i target, run input ⟨0, acc, code⟩ = .error (.jumpOutOfBounds i target) →
        code.length + n ≤ target := by
  by_cases hinside : EndsInside (run input ⟨0, acc, code⟩)
  · constructor
    · intro _ i target hrun
      rw [hrun] at hinside
      exact hinside.elim
    · intro _ u hu hwithin
      have hplaced := (endsInside_run_iff index acc code).mpr hinside
      have hbound : u.index < index + code.length :=
        index_lt_of_mem_visited_append more hplaced u hu
      exact absurd hwithin.1 (Nat.not_le.mpr hbound)
  · -- The code jumps out: on its own, and as far at its place.
    obtain ⟨i, target, halone⟩ : ∃ i target, run input ⟨0, acc, code⟩ =
        .error (.jumpOutOfBounds i target) := exists_jumpOut_of_not_endsInside hreturn hinside
    have hplaced : run input ⟨index, acc, code⟩ =
        .error (.jumpOutOfBounds (index + i) (index + target)) := by
      rw [run_eq_mapError, halone]
      rfl
    obtain ⟨hle, before, acc', hjump, hbefore⟩ := visited_append_of_jumpOut more hplaced
    dsimp only at hle hjump hbefore
    rw [hjump]
    constructor
    · intro havoids j reached hreached
      rw [halone] at hreached
      cases hreached
      refine Nat.not_lt.mp fun hnear => ?_
      -- There is code at that place, so the run stands there.
      have hbehind : more.drop (index + target - (index + code.length)) ≠ [] := by
        rw [ne_eq, List.drop_eq_nil_iff]
        omega
      refine havoids _ (List.mem_append_right _ (mem_visited_self hbehind)) ⟨hle, ?_⟩
      show index + target < _
      omega
    · intro hfar u hu hwithin
      have hfar : code.length + n ≤ target := hfar i target halone
      obtain ⟨hlow, hhigh⟩ := hwithin
      rcases List.mem_append.mp hu with hu | hu
      · have hlt : u.index < index + code.length := hbefore u hu
        omega
      · have hle : index + target ≤ u.index := le_index_of_mem_visited u hu
        omega

/-- The jumps of a condition of which no term holds are visited one after the other. -/
theorem visited_termJumps_of_none {terms : List Term} (beyond : Nat)
    (hnone : terms.any (·.holds acc) = false) (hcode : code ≠ []) :
    ∃ before, visited input ⟨index, acc, termJumps beyond terms ++ code⟩ =
        before ++ visited input ⟨index + terms.length, acc, code⟩ ∧
      ∀ u ∈ before, u.index < index + terms.length := by
  refine ⟨_, (passes_termJumps_of_none beyond hnone hcode).visited, ?_⟩
  intro u hu
  obtain ⟨i, hi, rfl⟩ := mem_inTurn_iff.mp hu
  exact Nat.add_lt_add_left hi index

/-! ## Isolation -/

/-- **When a fallback is isolated.**  With no term holding, a statement runs no instruction of its
matched body, in front of any code and at any position, exactly if the fallback on its own does not
jump to a place that is past its end by less than the length of that body. -/
theorem isolated_iff {terms : List Term} {matched fallback : List Instruction}
    (h : Statement.whenAnyElse terms matched fallback = .ok code)
    (hnone : terms.any (·.holds acc) = false) (rest : List Instruction) (index : Nat) :
    (∀ u ∈ visited input ⟨index, acc, code ++ rest⟩,
        ¬ u.Within (index + terms.length + fallback.length) matched.length) ↔
      ∀ i target, run input ⟨0, acc, fallback⟩ = .error (.jumpOutOfBounds i target) →
        fallback.length + matched.length ≤ target := by
  obtain ⟨-, hreturn, -, rfl⟩ := Statement.whenAnyElse_eq_ok h
  have hfallback : fallback ++ (matched ++ rest) ≠ [] :=
    List.append_ne_nil_of_left_ne_nil (Statement.ne_nil_of_endsInReturn hreturn) _
  -- First come the jumps, none of which is taken, and then the fallback with more code behind.
  obtain ⟨jumps, hvisited, hjumps⟩ : ∃ before, visited input ⟨index, acc,
      termJumps fallback.length terms ++ (fallback ++ (matched ++ rest))⟩ = before ++ visited input
        (append ⟨index + terms.length, acc, fallback⟩ (matched ++ rest)) ∧
      ∀ u ∈ before, u.index < index + terms.length :=
    visited_termJumps_of_none fallback.length hnone hfallback
  have hlength : matched.length ≤ (matched ++ rest).length := by
    rw [List.length_append]
    exact Nat.le_add_right _ _
  rw [List.append_assoc, List.append_assoc, hvisited,
    ← visited_append_avoids_iff hreturn (matched ++ rest) hlength (index + terms.length) acc]
  constructor
  · intro havoids u hu
    exact havoids u (List.mem_append_right _ hu)
  · intro havoids u hu hwithin
    rcases List.mem_append.mp hu with hu | hu
    · have hbefore : u.index < index + terms.length := hjumps u hu
      obtain ⟨hlow, -⟩ := hwithin
      omega
    · exact havoids u hu hwithin

/-- A fallback that chooses between two returns of its own is isolated. -/
theorem isolated_iff_two_returns :
    let fallback : List Instruction := [.jump .equal 5 1 0, .ret 1, .ret 2]
    ∃ code, Statement.whenAnyElse [⟨.equal, 1⟩] [.ret 3] fallback = .ok code ∧
      [(⟨.equal, 1⟩ : Term)].any (·.holds 0) = false ∧
      ∀ u ∈ visited [] ⟨0, 0, code ++ [.ret 4]⟩, ¬ u.Within (0 + 1 + fallback.length) 1 := by
  intro fallback
  have hcode : Statement.whenAnyElse [⟨.equal, 1⟩] [.ret 3] fallback =
      .ok (.jump .equal 1 3 0 :: fallback ++ [.ret 3]) := rfl
  have hnone : [(⟨.equal, 1⟩ : Term)].any (·.holds 0) = false := rfl
  have halone : run [] ⟨0, 0, fallback⟩ = .ok 1 := by cbv
  refine ⟨_, hcode, hnone, (isolated_iff hcode hnone [.ret 4] 0).mpr fun i target hrun => ?_⟩
  rw [halone] at hrun
  cases hrun

/-- A statement whose fallback is a statement under one term.  No term holds, nor does the inner one;
its jump over the return enters the matched body, and the run allows what no term asked for. -/
theorem fallback_enters_matched :
    ∃ fallback code, Statement.when ⟨.equal, 5⟩ [.ret 0x00050001] = .ok fallback ∧
      Statement.whenAnyElse [⟨.equal, 1⟩] [.ret 0x7fff0000] fallback = .ok code ∧
      [(⟨.equal, 1⟩ : Term)].any (·.holds 0) = false ∧
      (∃ u ∈ visited [] (start code), u.Within (1 + fallback.length) 1) ∧
      Bpf.run code [] = .ok 0x7fff0000 := by
  have hentered : ∃ u ∈ visited [] (start [.jump .equal 1 2 0, .jump .equal 5 0 1, .ret 0x00050001,
      .ret 0x7fff0000]), u.Within 3 1 := by decide +kernel
  have hreturned : Bpf.run [.jump .equal 1 2 0, .jump .equal 5 0 1, .ret 0x00050001,
      .ret 0x7fff0000] [] = .ok 0x7fff0000 := by cbv
  exact ⟨_, _, rfl, rfl, rfl, hentered, hreturned⟩

end State

end TtyGuard.Bpf
