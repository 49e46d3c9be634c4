/-
# TtyGuard.Proofs.Bpf.Continuation — where a statement inside a program sends control

A statement stands somewhere in a program, between any instructions in front of it and any behind
it.  `Continues` says what becomes of a run that has come to its first instruction: it takes some
instructions in turn, which leave the accumulator alone, and is from there on the run of other code
on its own, moved back by as many instructions as stand in front of that code.

`whenAnyElse_continues` says so of statements under several terms and `guarded_continues` of those
with one term.  Bodies are arbitrary code, and their jumps may leave them.
-/
import TtyGuard.Proofs.Bpf.Branching
import TtyGuard.Proofs.Bpf.Relocation

namespace TtyGuard.Bpf

namespace State

/-- The machine in front of the instruction at `index` of a program. -/
def enter (program : List Instruction) (index : Nat) (acc : UInt32) : State :=
  ⟨index, acc, program.drop index⟩

theorem enter_append (pre code rest : List Instruction) (acc : UInt32) :
    enter (pre ++ code ++ rest) pre.length acc = ⟨pre.length, acc, code ++ rest⟩ := by
  rw [enter, List.append_assoc, List.drop_left]

end State

open State (Passes enter enter_append)

variable {input : List UInt8} {acc : UInt32} {s entry : State} {term : Term} {terms : List Term}
  {code body matched fallback pre rest : List Instruction}

/-- The run of `s`, which comes to `entry`, takes from there `count` instructions in turn, which
leave the accumulator alone, and then goes on as `code` does on its own, with `distance`
instructions in front of it. -/
structure Continues (input : List UInt8) (s entry : State) (count distance : Nat)
    (code : List Instruction) : Prop where
  run : s.run input = (State.run input ⟨0, entry.acc, code⟩).mapError (Fault.shift distance)
  visited : ∃ before, s.visited input = before ++ entry.inTurn count ++
    (State.visited input ⟨0, entry.acc, code⟩).map (State.shift distance)

theorem Continues.of_passes {count distance : Nat} (hs : entry ∈ s.visited input)
    (h : Passes input count entry ⟨distance, entry.acc, code⟩) :
    Continues input s entry count distance code := by
  obtain ⟨hrun, before, hvisited⟩ := State.run_and_suffix_of_mem_visited hs
  constructor
  · rw [hrun, h.run, State.run_eq_mapError]
  · refine ⟨before, ?_⟩
    have hmoved : State.visited input ⟨distance, entry.acc, code⟩ =
        (State.visited input ⟨0, entry.acc, code⟩).map (State.shift distance) :=
      State.visited_shift distance ⟨0, entry.acc, code⟩
    rw [← hvisited, h.visited, hmoved, List.append_assoc]

/-! ## Several terms -/

/-- **Statements under several terms, inside any program.**  A run that comes to the first condition
goes on with the matched body and what follows it if a term holds: through the conditions up to the
first that holds, which leave the accumulator alone.  If no term holds, it goes on behind the last
condition, with the fallback, the matched body and what follows.  Where there is nothing behind the
fallback, the first condition that holds jumps to the end of the program. -/
theorem whenAnyElse_continues
    (h : Statement.whenAnyElse terms matched fallback = .ok code) (pre rest : List Instruction)
    (input : List UInt8) (acc : UInt32) (s : State)
    (hs : enter (pre ++ code ++ rest) pre.length acc ∈ s.visited input) :
    let program := pre ++ code ++ rest
    let entry := enter program pre.length acc
    let first := terms.findIdx (·.holds acc)
    (terms.any (·.holds acc) = true → matched ++ rest ≠ [] →
      Continues input s entry (first + 1) (pre.length + terms.length + fallback.length)
        (matched ++ rest)) ∧
    (terms.any (·.holds acc) = false →
      Continues input s entry terms.length (pre.length + terms.length)
        (fallback ++ (matched ++ rest))) ∧
    (terms.any (·.holds acc) = true → matched ++ rest = [] →
      s.run input = .error (.jumpOutOfBounds (pre.length + first) program.length)) := by
  intro program entry first
  obtain ⟨-, hreturn, hlength, rfl⟩ := Statement.whenAnyElse_eq_ok h
  have hentry : entry = ⟨pre.length, acc, Statement.termJumps fallback.length terms ++
      (fallback ++ (matched ++ rest))⟩ := by
    show enter _ _ _ = _
    rw [enter_append, List.append_assoc, List.append_assoc]
  refine ⟨fun hany hnext => ?_, fun hnone => ?_, fun hany hnothing => ?_⟩
  · apply Continues.of_passes hs
    show Passes input _ entry ⟨_, acc, _⟩
    rw [hentry]
    exact State.passes_termJumps_of_any hany hlength hnext
  · have hfallback : fallback ++ (matched ++ rest) ≠ [] :=
      List.append_ne_nil_of_left_ne_nil (Statement.ne_nil_of_endsInReturn hreturn) _
    apply Continues.of_passes hs
    show Passes input _ entry ⟨_, acc, _⟩
    rw [hentry]
    exact State.passes_termJumps_of_none _ hnone hfallback
  · obtain ⟨rfl, rfl⟩ := List.append_eq_nil_iff.mp hnothing
    rw [(State.run_and_suffix_of_mem_visited hs).1]
    show State.run input entry = _
    have hlast : program.length = pre.length + terms.length + fallback.length := by
      simp only [program, List.length_append, Statement.length_termJumps, List.length_nil]
      omega
    rw [hentry, hlast, List.append_nil, List.append_nil]
    exact State.run_termJumps_out hany hlength

/-- The second of three terms is the first to hold, behind a load.  The matched body jumps out of
itself to a load outside the input, whose position counts everything in front of it. -/
theorem whenAnyElse_continues_second_term :
    let terms : List Term := [⟨.equal, 1⟩, ⟨.bitSet, 2⟩, ⟨.equal, 3⟩]
    let matched : List Instruction := [.jump .equal 2 1 0, .ret 8]
    let input : List UInt8 := [2, 0, 0, 0]
    ∃ code, Statement.whenAnyElse terms matched [.ret 7] = .ok code ∧
      let program := [.load 0] ++ code ++ [.load 61]
      enter program 1 2 ∈ (State.start program).visited input ∧
        terms.any (·.holds 2) = true ∧
        (State.start program).run input = .error (.loadOutOfBounds 7 61) := by
  intro terms matched input
  have hcode : Statement.whenAnyElse terms matched [.ret 7] =
      .ok [.jump .equal 1 3 0, .jump .bitSet 2 2 0, .jump .equal 3 1 0, .ret 7,
        .jump .equal 2 1 0, .ret 8] := rfl
  refine ⟨_, hcode, ?_⟩
  intro program
  have hreached : enter program 1 2 ∈ (State.start program).visited input := by decide +kernel
  have hany : terms.any (·.holds 2) = true := by decide
  have hmatched : State.run input ⟨0, 2, matched ++ [.load 61]⟩ =
      .error (.loadOutOfBounds 2 61) := by
    cbv
  have hcontinues := (whenAnyElse_continues hcode [.load 0] [.load 61] input 2 _ hreached).1 hany
    (List.cons_ne_nil _ _)
  refine ⟨hreached, hany, ?_⟩
  rw [hcontinues.run]
  show (State.run input ⟨0, 2, matched ++ [.load 61]⟩).mapError _ = _
  rw [hmatched]
  rfl

/-! ## One term -/

/-- Inside any program, the code runs its body with the accumulators that `enters` accepts and skips
it with the others.  Where nothing is left to go on with, its jump has no place to lead to. -/
def Chooses (code body : List Instruction) (enters : UInt32 → Bool) : Prop :=
  ∀ (pre rest : List Instruction) (input : List UInt8) (acc : UInt32) (s : State),
    let program := pre ++ code ++ rest
    let entry := enter program pre.length acc
    entry ∈ s.visited input →
      (enters acc = true → body ++ rest ≠ [] →
        Continues input s entry 1 (pre.length + 1) (body ++ rest)) ∧
      (enters acc = false → rest ≠ [] →
        Continues input s entry 1 (pre.length + 1 + body.length) rest) ∧
      (rest = [] → enters acc = false ∨ body = [] →
        s.run input = .error (.jumpOutOfBounds pre.length program.length))

theorem Guards.chooses {enters : UInt32 → Bool} (h : Guards code body enters) :
    Chooses code body enters := by
  intro pre rest input acc s program entry hs
  have hentry : entry = ⟨pre.length, acc, code ++ rest⟩ := enter_append pre code rest acc
  have hacc : entry.acc = acc := rfl
  refine ⟨fun henter hnext => ?_, fun hskip hrest => ?_, fun hnothing hout => ?_⟩
  · apply Continues.of_passes hs
    rw [hacc, hentry]
    exact h.passes_enter henter hnext
  · apply Continues.of_passes hs
    rw [hacc, hentry, Nat.add_assoc, Nat.add_comm 1, ← h.length_eq]
    exact h.passes_skip hskip hrest
  · subst hnothing
    rw [(State.run_and_suffix_of_mem_visited hs).1, hentry]
    have hend : program.length = pre.length + code.length := by
      simp only [program, List.length_append, List.length_nil, Nat.add_zero]
    rw [hend, List.append_nil]
    exact h.run_out hout

/-- **Statements with one term, inside any program.**  A statement under a term and one against it
exist for exactly the same bodies, those that a jump can skip.  The one runs its body if the term
holds and the other if it does not, and otherwise they skip it. -/
theorem guarded_continues (term : Term) (body : List Instruction) :
    ((∃ code, Statement.when term body = .ok code) ↔ body.length ≤ 255) ∧
    ((∃ code, Statement.whenNot term body = .ok code) ↔ body.length ≤ 255) ∧
    (255 < body.length →
      Statement.when term body = .error (.tooLargeBody body.length) ∧
      Statement.whenNot term body = .error (.tooLargeBody body.length)) ∧
    (∀ code, Statement.when term body = .ok code → Chooses code body fun acc => term.holds acc) ∧
    ∀ code, Statement.whenNot term body = .ok code →
      Chooses code body fun acc => !term.holds acc := by
  refine ⟨Statement.exists_when_iff, Statement.exists_whenNot_iff, fun hlong => ?_,
    fun code h => (Guards.of_when h).chooses, fun code h => (Guards.of_whenNot h).chooses⟩
  have hlong : ¬ body.length ≤ Statement.maxSkip := Nat.not_le.mpr hlong
  rw [Statement.when_eq, Statement.whenNot_eq, if_neg hlong, if_neg hlong]
  exact ⟨rfl, rfl⟩

/-- Under a term that holds, a body is entered that jumps out of itself; against it and at the end
of a program, the body is skipped to no place. -/
theorem guarded_continues_both_ways :
    let term : Term := ⟨.bitSet, 6⟩
    let body : List Instruction := [.jump .equal 4 1 0, .ret 1]
    let input : List UInt8 := [4, 0, 0, 0]
    ∃ code codeNot,
      Statement.when term body = .ok code ∧ Statement.whenNot term body = .ok codeNot ∧
      enter ([.load 0] ++ code ++ [.ret 2]) 1 4 ∈
        (State.start ([.load 0] ++ code ++ [.ret 2])).visited input ∧
      (State.start ([.load 0] ++ code ++ [.ret 2])).run input = .ok 2 ∧
      enter ([.load 0] ++ codeNot ++ []) 1 4 ∈
        (State.start ([.load 0] ++ codeNot ++ [])).visited input ∧
      (State.start ([.load 0] ++ codeNot ++ [])).run input = .error (.jumpOutOfBounds 1 4) := by
  intro term body input
  have hwhen : Statement.when term body = .ok (.jump .bitSet 6 0 2 :: body) := rfl
  have hwhenNot : Statement.whenNot term body = .ok (.jump .bitSet 6 2 0 :: body) := rfl
  refine ⟨_, _, hwhen, hwhenNot, ?_⟩
  have hreached : enter ([.load 0] ++ (.jump .bitSet 6 0 2 :: body) ++ [.ret 2]) 1 4 ∈
      (State.start ([.load 0] ++ (.jump .bitSet 6 0 2 :: body) ++ [.ret 2])).visited input := by
    decide +kernel
  have hreachedNot : enter ([.load 0] ++ (.jump .bitSet 6 2 0 :: body) ++ []) 1 4 ∈
      (State.start ([.load 0] ++ (.jump .bitSet 6 2 0 :: body) ++ [])).visited input := by
    decide +kernel
  obtain ⟨-, -, -, hchooses, hchoosesNot⟩ := guarded_continues term body
  have hholds : term.holds 4 = true := by decide
  have hbody : State.run input ⟨0, 4, body ++ [.ret 2]⟩ = .ok 2 := by cbv
  have hentered := (hchooses _ hwhen [.load 0] [.ret 2] input 4 _ hreached).1 hholds
    (List.cons_ne_nil _ _)
  have hskipped := (hchoosesNot _ hwhenNot [.load 0] [] input 4 _ hreachedNot).2.2 rfl
    (Or.inl (congrArg not hholds))
  refine ⟨hreached, ?_, hreachedNot, hskipped⟩
  rw [hentered.run]
  show (State.run input ⟨0, 4, body ++ [.ret 2]⟩).mapError _ = _
  rw [hbody]
  rfl

end TtyGuard.Bpf
