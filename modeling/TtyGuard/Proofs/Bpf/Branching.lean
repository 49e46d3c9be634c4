/-
# TtyGuard.Proofs.Bpf.Branching — conditional statements inside any code

A statement is met in front of arbitrary code, at an arbitrary position and with an arbitrary
accumulator; its bodies are arbitrary too, and their own jumps may leave them.  What it does there
is to choose where the run goes on: `Guards.run`, for a statement with one term, and
`run_whenAnyElse` say so without mentioning an offset.  Underneath is one fact about a single jump,
`passes_jump_over`, and an induction over the terms of a condition in front of the first that holds;
each jump has a distance of its own, and all of them meet.
-/
import TtyGuard.Bpf.Statement
import TtyGuard.Proofs.Bpf.Execution

namespace TtyGuard.Bpf

variable {input : List UInt8} {index : Nat} {acc : UInt32} {term : Term} {terms : List Term}
  {code body matched fallback rest : List Instruction}

/-! ## What a statement that exists looks like -/

namespace Statement

theorem when_eq_ok (h : Statement.when term body = .ok code) :
    body.length ≤ maxSkip ∧
      code = .jump term.condition term.k 0 (.ofNat body.length) :: body := by
  rw [when_eq] at h
  split at h
  · next hlength => exact ⟨hlength, (Except.ok.inj h).symm⟩
  · cases h

theorem exists_when_iff :
    (∃ code, Statement.when term body = .ok code) ↔ body.length ≤ maxSkip := by
  rw [when_eq]
  split
  · next hlength => exact ⟨fun _ => hlength, fun _ => ⟨_, rfl⟩⟩
  · next hlength => simp [hlength]

theorem whenNot_eq_ok (h : whenNot term body = .ok code) :
    body.length ≤ maxSkip ∧
      code = .jump term.condition term.k (.ofNat body.length) 0 :: body := by
  rw [whenNot_eq] at h
  split at h
  · next hlength => exact ⟨hlength, (Except.ok.inj h).symm⟩
  · cases h

theorem exists_whenNot_iff :
    (∃ code, Statement.whenNot term body = .ok code) ↔ body.length ≤ maxSkip := by
  rw [whenNot_eq]
  split
  · next hlength => exact ⟨fun _ => hlength, fun _ => ⟨_, rfl⟩⟩
  · next hlength => simp [hlength]

/-- The distance of the first jump, the furthest of all, is one that a jump can skip. -/
theorem whenAnyElse_eq_ok (h : whenAnyElse terms matched fallback = .ok code) :
    terms ≠ [] ∧ endsInReturn fallback = true ∧ terms.length + fallback.length ≤ maxSkip + 1 ∧
      code = termJumps fallback.length terms ++ fallback ++ matched := by
  rw [whenAnyElse_eq] at h
  split at h
  · cases h
  next hterms =>
  split at h
  · cases h
  next hreturn =>
  split at h
  · cases h
  next hlength =>
  split at h
  · cases h
  next hmax =>
  refine ⟨?_, ?_, ?_, (Except.ok.inj h).symm⟩
  · simpa using hterms
  · simpa using hreturn
  · unfold maxTerms at hmax
    omega

theorem ne_nil_of_endsInReturn (h : endsInReturn code = true) : code ≠ [] := by
  rintro rfl
  cases h

/-- An offset that was made from a short enough distance gives the distance back. -/
theorem toNat_ofNat_of_le {n : Nat} (h : n ≤ maxSkip) : (UInt8.ofNat n).toNat = n := by
  rw [UInt8.toNat_ofNat']
  exact Nat.mod_eq_of_lt (Nat.lt_succ_of_le h)

/-- The jumps in front reach over the jumps after them as well. -/
theorem termJumps_append (beyond : Nat) (terms later : List Term) :
    termJumps beyond (terms ++ later) =
      termJumps (later.length + beyond) terms ++ termJumps beyond later := by
  induction terms with
  | nil => rfl
  | cons t rest ih =>
    rw [List.cons_append, termJumps, termJumps, ih, List.length_append, List.cons_append,
      Nat.add_assoc]

end Statement

open Statement (maxSkip toNat_ofNat_of_le)

/-- The jump of a term takes its first branch exactly if the term holds. -/
theorem branchSkip_term (term : Term) (jt jf : UInt8) (acc : UInt32) :
    branchSkip term.condition term.k jt jf acc =
      if term.holds acc then jt.toNat else jf.toNat := by
  rw [branchSkip, Term.holds]
  split
  · rfl
  · rfl

namespace State

/-! ## Single instructions -/

theorem run_load {offset word : UInt32} (h : wordAt? input offset = some word) :
    run input ⟨index, acc, .load offset :: rest⟩ = run input ⟨index + 1, word, rest⟩ :=
  run_of_next (step_load h)

theorem run_load_fault {offset : UInt32} (h : wordAt? input offset = none) :
    run input ⟨index, acc, .load offset :: rest⟩ = .error (.loadOutOfBounds index offset) :=
  run_of_halt (step_load_fault h)

variable {condition : Condition} {k : UInt32} {jt jf : UInt8}

/-- A jump whose distance is the length of a body goes on behind the body. -/
theorem passes_jump_over (hskip : branchSkip condition k jt jf acc = body.length)
    (hrest : rest ≠ []) :
    Passes input 1 ⟨index, acc, .jump condition k jt jf :: (body ++ rest)⟩
      ⟨index + (body.length + 1), acc, rest⟩ := by
  have hlt : branchSkip condition k jt jf acc < (body ++ rest).length := by
    have hpos : 0 < rest.length := List.length_pos_iff.mpr hrest
    rw [hskip, List.length_append]
    omega
  apply Passes.of_step
  rw [step_jump hlt, hskip, List.drop_left, Nat.add_assoc, Nat.add_comm 1]

/-- A jump of no distance goes on with the next instruction. -/
theorem passes_jump_zero (hskip : branchSkip condition k jt jf acc = 0) (hrest : rest ≠ []) :
    Passes input 1 ⟨index, acc, .jump condition k jt jf :: rest⟩ ⟨index + 1, acc, rest⟩ := by
  have hempty : branchSkip condition k jt jf acc = ([] : List Instruction).length := hskip
  exact passes_jump_over hempty hrest

/-- A jump over all that is left leads to no instruction. -/
theorem run_jump_out (hskip : branchSkip condition k jt jf acc = rest.length) :
    run input ⟨index, acc, .jump condition k jt jf :: rest⟩ =
      .error (.jumpOutOfBounds index (index + (rest.length + 1))) := by
  rw [run_of_halt (step_jump_fault (Nat.le_of_eq hskip.symm)), hskip, Nat.add_assoc,
    Nat.add_comm 1]

end State

/-! ## One term -/

/-- The code is a jump in front of the body: it enters the body with the accumulators that `enters`
accepts and skips it with the others. -/
def Guards (code body : List Instruction) (enters : UInt32 → Bool) : Prop :=
  ∃ condition k jt jf, code = .jump condition k jt jf :: body ∧
    ∀ acc, branchSkip condition k jt jf acc = if enters acc then 0 else body.length

namespace Guards

variable {enters : UInt32 → Bool}

/-- A statement under one term runs its body if the term holds. -/
theorem of_when (h : Statement.when term body = .ok code) :
    Guards code body fun acc => term.holds acc := by
  obtain ⟨hlength, rfl⟩ := Statement.when_eq_ok h
  refine ⟨_, _, _, _, rfl, fun acc => ?_⟩
  rw [branchSkip_term, toNat_ofNat_of_le hlength]
  rfl

/-- A statement against one term runs its body if the term does not hold. -/
theorem of_whenNot (h : Statement.whenNot term body = .ok code) :
    Guards code body fun acc => !term.holds acc := by
  obtain ⟨hlength, rfl⟩ := Statement.whenNot_eq_ok h
  refine ⟨_, _, _, _, rfl, fun acc => ?_⟩
  rw [branchSkip_term, toNat_ofNat_of_le hlength]
  show _ = if !term.holds acc then 0 else body.length
  cases hterm : term.holds acc with
  | true => rfl
  | false => rfl

theorem length_eq (h : Guards code body enters) : code.length = body.length + 1 := by
  obtain ⟨_, _, _, _, rfl, -⟩ := h
  rfl

theorem passes_enter (h : Guards code body enters) (henter : enters acc = true)
    (hnext : body ++ rest ≠ []) :
    State.Passes input 1 ⟨index, acc, code ++ rest⟩ ⟨index + 1, acc, body ++ rest⟩ := by
  obtain ⟨_, _, _, _, rfl, hskip⟩ := h
  apply State.passes_jump_zero _ hnext
  rw [hskip, if_pos henter]

theorem passes_skip (h : Guards code body enters) (hskip : enters acc = false)
    (hrest : rest ≠ []) :
    State.Passes input 1 ⟨index, acc, code ++ rest⟩ ⟨index + code.length, acc, rest⟩ := by
  obtain ⟨_, _, _, _, rfl, hdistance⟩ := h
  apply State.passes_jump_over _ hrest
  rw [hdistance, hskip]
  rfl

/-- With nothing behind the body there is no place to skip to, and with nothing in the body either
no place to enter. -/
theorem run_out (h : Guards code body enters) (hout : enters acc = false ∨ body = []) :
    State.run input ⟨index, acc, code⟩ =
      .error (.jumpOutOfBounds index (index + code.length)) := by
  obtain ⟨_, _, _, _, rfl, hdistance⟩ := h
  apply State.run_jump_out
  rw [hdistance]
  rcases hout with hskip | rfl
  · rw [hskip]
    rfl
  · rw [List.length_nil, ite_self]

/-- **A guarded body.**  It is run or skipped as the accumulator says. -/
theorem run (h : Guards code body enters) (hrest : rest ≠ []) :
    State.run input ⟨index, acc, code ++ rest⟩ =
      if enters acc then State.run input ⟨index + 1, acc, body ++ rest⟩
      else State.run input ⟨index + code.length, acc, rest⟩ := by
  cases henter : enters acc with
  | true => exact (h.passes_enter henter (List.append_ne_nil_of_right_ne_nil body hrest)).run
  | false => exact (h.passes_skip henter hrest).run

end Guards

namespace State

/-! ## Several terms -/

/-- If no term holds, every jump falls through to the next and the last one to what follows. -/
theorem passes_termJumps_of_none (beyond : Nat) (hnone : terms.any (·.holds acc) = false)
    (hcode : code ≠ []) :
    Passes input terms.length ⟨index, acc, Statement.termJumps beyond terms ++ code⟩
      ⟨index + terms.length, acc, code⟩ := by
  induction terms generalizing index with
  | nil => exact Passes.refl _
  | cons t later ih =>
    rw [List.any_cons, Bool.or_eq_false_iff] at hnone
    have hskip : branchSkip t.condition t.k (.ofNat (later.length + beyond)) 0 acc = 0 := by
      rw [branchSkip_term, hnone.1]
      rfl
    have hnext : Statement.termJumps beyond later ++ code ≠ [] :=
      List.append_ne_nil_of_right_ne_nil _ hcode
    have hfirst : Passes input 1 ⟨index, acc, Statement.termJumps beyond (t :: later) ++ code⟩
        ⟨index + 1, acc, Statement.termJumps beyond later ++ code⟩ :=
      passes_jump_zero hskip hnext
    rw [List.length_cons, Nat.add_comm later.length, ← Nat.add_assoc]
    exact hfirst.trans (ih hnone.2) rfl

/-- If a term holds, there is a first one. -/
theorem exists_first (hany : terms.any (·.holds acc) = true) :
    ∃ misses t later, terms = misses ++ t :: later ∧ misses.any (·.holds acc) = false ∧
      t.holds acc = true ∧ terms.findIdx (·.holds acc) = misses.length := by
  induction terms with
  | nil => cases hany
  | cons t later ih =>
    rw [List.findIdx_cons]
    cases ht : t.holds acc with
    | true => exact ⟨[], t, later, rfl, rfl, ht, rfl⟩
    | false =>
      rw [List.any_cons, ht, Bool.false_or] at hany
      obtain ⟨misses, first, rest, rfl, hmisses, hfirst, hindex⟩ := ih hany
      refine ⟨t :: misses, first, rest, rfl, ?_, hfirst, congrArg (· + 1) hindex⟩
      rw [List.any_cons, ht, hmisses]
      rfl

variable {misses later : List Term}

/-- The jumps in front of a term's own fall through to it if their terms do not hold. -/
theorem passes_to_term (beyond : Nat) (hmisses : misses.any (·.holds acc) = false) :
    Passes input misses.length
      ⟨index, acc, Statement.termJumps beyond (misses ++ term :: later) ++ code⟩
      ⟨index + misses.length, acc, Statement.termJumps beyond (term :: later) ++ code⟩ := by
  rw [Statement.termJumps_append, List.append_assoc]
  exact passes_termJumps_of_none _ hmisses (List.cons_ne_nil _ _)

/-- A term that holds skips all that is left of the condition together with the fallback. -/
theorem branchSkip_term_of_holds (hterm : term.holds acc = true)
    (hlength : later.length + fallback.length ≤ maxSkip) :
    branchSkip term.condition term.k (.ofNat (later.length + fallback.length)) 0 acc =
      (Statement.termJumps fallback.length later ++ fallback).length := by
  rw [branchSkip_term, if_pos hterm, List.length_append, Statement.length_termJumps]
  exact toNat_ofNat_of_le hlength

/-- The place behind the fallback, counted from the jump of one of the terms. -/
theorem place_behind (index : Nat) (misses later : List Term) (term : Term)
    (fallback : List Instruction) :
    index + (misses ++ term :: later).length + fallback.length =
      index + misses.length +
        ((Statement.termJumps fallback.length later ++ fallback).length + 1) := by
  rw [List.length_append, List.length_append, Statement.length_termJumps, List.length_cons]
  omega

/-- From whichever term holds first, control comes to the same place. -/
theorem passes_termJumps_of_any (hany : terms.any (·.holds acc) = true)
    (hlength : terms.length + fallback.length ≤ maxSkip + 1) (hcode : code ≠ []) :
    Passes input (terms.findIdx (·.holds acc) + 1)
      ⟨index, acc, Statement.termJumps fallback.length terms ++ (fallback ++ code)⟩
      ⟨index + terms.length + fallback.length, acc, code⟩ := by
  obtain ⟨misses, first, later, rfl, hmisses, hfirst, hindex⟩ := exists_first hany
  have hreach : later.length + fallback.length ≤ maxSkip := by
    rw [List.length_append, List.length_cons] at hlength
    omega
  -- Its own jump goes the rest of the way, wherever in the condition it stands.
  have hover : Passes input 1
      ⟨index + misses.length, acc,
        Statement.termJumps fallback.length (first :: later) ++ (fallback ++ code)⟩
      ⟨index + (misses ++ first :: later).length + fallback.length, acc, code⟩ := by
    rw [place_behind, ← List.append_assoc]
    exact passes_jump_over (branchSkip_term_of_holds hfirst hreach) hcode
  rw [hindex]
  apply (passes_to_term fallback.length hmisses).trans hover
  rw [Statement.termJumps_append, List.append_assoc,
    List.drop_left' (Statement.length_termJumps _ misses)]

/-- With nothing behind the fallback there is no such place. -/
theorem run_termJumps_out (hany : terms.any (·.holds acc) = true)
    (hlength : terms.length + fallback.length ≤ maxSkip + 1) :
    run input ⟨index, acc, Statement.termJumps fallback.length terms ++ fallback⟩ =
      .error (.jumpOutOfBounds (index + terms.findIdx (·.holds acc))
        (index + terms.length + fallback.length)) := by
  obtain ⟨misses, first, later, rfl, hmisses, hfirst, hindex⟩ := exists_first hany
  have hreach : later.length + fallback.length ≤ maxSkip := by
    rw [List.length_append, List.length_cons] at hlength
    omega
  rw [(passes_to_term fallback.length hmisses).run, hindex, place_behind]
  exact run_jump_out (branchSkip_term_of_holds hfirst hreach)

/-- **A statement under several terms.**  The run goes on with the matched body if one of them
holds, and with the fallback otherwise, which has the matched body behind it. -/
theorem run_whenAnyElse (h : Statement.whenAnyElse terms matched fallback = .ok code)
    (hrest : matched ++ rest ≠ []) :
    run input ⟨index, acc, code ++ rest⟩ =
      if terms.any (·.holds acc) then
        run input ⟨index + terms.length + fallback.length, acc, matched ++ rest⟩
      else run input ⟨index + terms.length, acc, fallback ++ (matched ++ rest)⟩ := by
  obtain ⟨-, hreturn, hlength, rfl⟩ := Statement.whenAnyElse_eq_ok h
  rw [List.append_assoc, List.append_assoc]
  cases hterms : terms.any (·.holds acc) with
  | true => exact (passes_termJumps_of_any hterms hlength hrest).run
  | false =>
    have hfallback : fallback ++ (matched ++ rest) ≠ [] :=
      List.append_ne_nil_of_left_ne_nil (Statement.ne_nil_of_endsInReturn hreturn) _
    exact (passes_termJumps_of_none _ hterms hfallback).run

end State

end TtyGuard.Bpf
