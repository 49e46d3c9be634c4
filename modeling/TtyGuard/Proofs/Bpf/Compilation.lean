/-
# TtyGuard.Proofs.Bpf.Compilation — the code of a block does what the block says

`Realizes` relates code inside a longer program to a reading: whatever follows the code, and
wherever it stands, a run of it returns, faults or goes on behind it as the reading says.  Readings
compose and so do realizations (`Realizes.append`), so each form of statement is treated once, on
its own, and `realizes_compile` is an induction over the block.

One condition cannot be read off the code.  A fallback stands in front of the matched body, and the
builder only asks that its last instruction is a return; a block may still skip that return.
`FallbacksEnd` says of the block's meaning that no fallback falls through.
-/
import TtyGuard.Bpf.Block
import TtyGuard.Proofs.Basic
import TtyGuard.Proofs.Bpf.Branching

namespace TtyGuard.Bpf

variable {input : List UInt8} {code more rest : List Instruction} {acc : UInt32}

/-- No fallback of the block falls through, with whatever accumulator it is entered. -/
def Block.FallbacksEnd (input : List UInt8) : Block → Prop
  | .done => True
  | .load _ next => next.FallbacksEnd input
  | .ret _ next => next.FallbacksEnd input
  | .when _ body next => body.FallbacksEnd input ∧ next.FallbacksEnd input
  | .whenNot _ body next => body.FallbacksEnd input ∧ next.FallbacksEnd input
  | .whenAnyElse _ matched fallback next =>
    (∀ acc a, fallback.meaning input acc ≠ .fell a) ∧ matched.FallbacksEnd input ∧
      fallback.FallbacksEnd input ∧ next.FallbacksEnd input

/-- In front of `rest` and at any position, `code` entered with `acc` does what the reading says. -/
def Realizes (input : List UInt8) (code rest : List Instruction) (acc : UInt32) : Reading → Prop
  | .returned k => ∀ index, State.run input ⟨index, acc, code ++ rest⟩ = .ok k
  | .faulted offset => ∃ i, code[i]? = some (.load offset) ∧ ∀ index,
      State.run input ⟨index, acc, code ++ rest⟩ = .error (.loadOutOfBounds (index + i) offset)
  | .fell a => ∀ index, State.run input ⟨index, acc, code ++ rest⟩ =
      State.run input ⟨index + code.length, a, rest⟩

/-! ## Putting code together -/

/-- Code that is entered through `pre`, which leads to it with another accumulator. -/
theorem Realizes.prepend {pre : List Instruction} {entry : UInt32} {reading : Reading}
    (hpre : ∀ index, State.run input ⟨index, entry, pre ++ (code ++ rest)⟩ =
      State.run input ⟨index + pre.length, acc, code ++ rest⟩)
    (hcode : Realizes input code rest acc reading) :
    Realizes input (pre ++ code) rest entry reading := by
  cases reading with
  | returned k =>
    intro index
    rw [List.append_assoc, hpre]
    exact hcode (index + pre.length)
  | faulted offset =>
    obtain ⟨i, hi, hrun⟩ := hcode
    refine ⟨pre.length + i, ?_, fun index => ?_⟩
    · rw [List.getElem?_append_right (Nat.le_add_right _ _), Nat.add_sub_cancel_left, hi]
    · rw [List.append_assoc, hpre, hrun, Nat.add_assoc]
  | fell a =>
    intro index
    rw [List.append_assoc, hpre, List.length_append, ← Nat.add_assoc]
    exact hcode (index + pre.length)

/-- **Realizations compose.**  What follows has to realize its reading only where the first part
falls through. -/
theorem Realizes.append {reading : Reading} {next : UInt32 → Reading}
    (hcode : Realizes input code (more ++ rest) acc reading)
    (hmore : ∀ a, reading = .fell a → Realizes input more rest a (next a)) :
    Realizes input (code ++ more) rest acc (reading.andThen next) := by
  cases reading with
  | returned k =>
    intro index
    rw [List.append_assoc]
    exact hcode index
  | faulted offset =>
    obtain ⟨i, hi, hrun⟩ := hcode
    have hlt : i < code.length := (List.getElem?_eq_some_iff.mp hi).choose
    refine ⟨i, ?_, fun index => ?_⟩
    · rw [List.getElem?_append_left hlt, hi]
    · rw [List.append_assoc, hrun]
  | fell a => exact Realizes.prepend hcode (hmore a rfl)

/-- Code that does not fall through does the same with anything between it and `rest`. -/
theorem Realizes.append_of_ends {reading : Reading}
    (hcode : Realizes input code (more ++ rest) acc reading) (hends : ∀ a, reading ≠ .fell a) :
    Realizes input (code ++ more) rest acc reading := by
  have happend : Realizes input (code ++ more) rest acc (reading.andThen .fell) :=
    hcode.append fun a ha => absurd ha (hends a)
  cases reading with
  | returned k => exact happend
  | faulted offset => exact happend
  | fell a => exact absurd rfl (hends a)

/-! ## The forms of statement -/

theorem realizes_nil : Realizes input [] rest acc (.fell acc) :=
  fun _ => rfl

theorem realizes_ret (k : UInt32) : Realizes input [.ret k] rest acc (.returned k) :=
  fun _ => State.run_ret k

/-- A load falls through with the word, or faults where there is none. -/
theorem realizes_load (offset : UInt32) :
    Realizes input [.load offset] rest acc
      (match wordAt? input offset with
        | some word => .fell word
        | none => .faulted offset) := by
  cases hword : wordAt? input offset with
  | some word => exact fun _ => State.run_load hword
  | none => exact ⟨0, rfl, fun _ => State.run_load_fault hword⟩

variable {term : Term} {terms : List Term} {body matched fallback : List Instruction}
  {reading : Reading}

/-- A guarded body is entered past the jump alone, and skipped together with it. -/
theorem realizes_guarded {enters : UInt32 → Bool} (h : Guards code body enters) (hrest : rest ≠ [])
    (hbody : Realizes input body rest acc reading) :
    Realizes input code rest acc (if enters acc then reading else .fell acc) := by
  have hrun : ∀ index, State.run input ⟨index, acc, code ++ rest⟩ = _ := fun _ => h.run hrest
  cases henter : enters acc with
  | true =>
    obtain ⟨condition, k, jt, jf, rfl, -⟩ := h
    rw [henter] at hrun
    rw [← List.singleton_append]
    exact hbody.prepend hrun
  | false =>
    rw [henter] at hrun
    exact hrun

theorem realizes_when (h : Statement.when term body = .ok code) (hrest : rest ≠ [])
    (hbody : Realizes input body rest acc reading) :
    Realizes input code rest acc (if term.holds acc then reading else .fell acc) :=
  realizes_guarded (Guards.of_when h) hrest hbody

theorem realizes_whenNot (h : Statement.whenNot term body = .ok code) (hrest : rest ≠ [])
    (hbody : Realizes input body rest acc reading) :
    Realizes input code rest acc (if term.holds acc then .fell acc else reading) := by
  have hguarded := realizes_guarded (Guards.of_whenNot h) hrest hbody
  cases hterm : term.holds acc with
  | true =>
    rw [hterm] at hguarded
    exact hguarded
  | false =>
    rw [hterm] at hguarded
    exact hguarded

/-- The fallback is met with the matched body behind it, and ends before it gets there. -/
theorem realizes_whenAnyElse {otherwise : Reading}
    (h : Statement.whenAnyElse terms matched fallback = .ok code) (hrest : rest ≠ [])
    (hmatched : Realizes input matched rest acc reading)
    (hfallback : Realizes input fallback (matched ++ rest) acc otherwise)
    (hends : ∀ a, otherwise ≠ .fell a) :
    Realizes input code rest acc
      (if terms.any (·.holds acc) then reading else otherwise) := by
  have htarget : matched ++ rest ≠ [] := List.append_ne_nil_of_right_ne_nil matched hrest
  obtain ⟨-, -, -, hcode⟩ := Statement.whenAnyElse_eq_ok h
  cases hterms : terms.any (·.holds acc) with
  | true =>
    -- The matched body is entered past the jumps and the fallback.
    rw [hcode]
    refine hmatched.prepend fun index => ?_
    rw [← List.append_assoc, ← hcode, State.run_whenAnyElse h htarget, if_pos hterms,
      List.length_append, Statement.length_termJumps, Nat.add_assoc]
  | false =>
    -- Past the jumps alone comes the fallback, with the matched body between it and `rest`.
    rw [hcode, List.append_assoc]
    refine (hfallback.append_of_ends hends).prepend fun index => ?_
    rw [← List.append_assoc, ← List.append_assoc, ← hcode, State.run_whenAnyElse h htarget, hterms,
      Statement.length_termJumps, List.append_assoc]
    rfl

/-! ## Blocks -/

/-- **Compilation keeps the meaning.**  If no fallback falls through, the code of a block does what
the block says, in front of any further instruction. -/
theorem realizes_compile {block : Block} (hcompile : block.compile = .ok code)
    (hends : block.FallbacksEnd input) (hrest : rest ≠ []) (acc : UInt32) :
    Realizes input code rest acc (block.meaning input acc) := by
  -- An inner block is met with the rest of its statement behind it, and with any accumulator.
  induction block generalizing code rest acc with
  | done =>
    cases hcompile
    exact realizes_nil
  | load offset next ih =>
    obtain ⟨nextCode, hnext, hcode⟩ := bind_eq_ok.mp hcompile
    cases hcode
    have hload : Realizes input [.load offset] (nextCode ++ rest) acc _ := realizes_load offset
    rw [Block.meaning]
    cases hword : wordAt? input offset with
    | some word =>
      rw [hword] at hload
      exact Realizes.prepend hload (ih hnext hends hrest word)
    | none =>
      rw [hword] at hload
      exact hload.append_of_ends fun a ha => nomatch ha
  | ret k next ih =>
    obtain ⟨nextCode, hnext, hcode⟩ := bind_eq_ok.mp hcompile
    cases hcode
    exact (realizes_ret k).append fun a _ => ih hnext hends hrest a
  | «when» term body next ihBody ihNext =>
    obtain ⟨bodyCode, hbody, hcompile⟩ := bind_eq_ok.mp hcompile
    obtain ⟨statement, hstatement, hcompile⟩ := bind_eq_ok.mp hcompile
    obtain ⟨nextCode, hnext, hcode⟩ := bind_eq_ok.mp hcompile
    cases hcode
    have hbehind : nextCode ++ rest ≠ [] := List.append_ne_nil_of_right_ne_nil nextCode hrest
    exact (realizes_when hstatement hbehind (ihBody hbody hends.1 hbehind acc)).append
      fun a _ => ihNext hnext hends.2 hrest a
  | whenNot term body next ihBody ihNext =>
    obtain ⟨bodyCode, hbody, hcompile⟩ := bind_eq_ok.mp hcompile
    obtain ⟨statement, hstatement, hcompile⟩ := bind_eq_ok.mp hcompile
    obtain ⟨nextCode, hnext, hcode⟩ := bind_eq_ok.mp hcompile
    cases hcode
    have hbehind : nextCode ++ rest ≠ [] := List.append_ne_nil_of_right_ne_nil nextCode hrest
    exact (realizes_whenNot hstatement hbehind (ihBody hbody hends.1 hbehind acc)).append
      fun a _ => ihNext hnext hends.2 hrest a
  | whenAnyElse terms matched fallback next ihMatched ihFallback ihNext =>
    obtain ⟨matchedCode, hmatched, hcompile⟩ := bind_eq_ok.mp hcompile
    obtain ⟨fallbackCode, hfallback, hcompile⟩ := bind_eq_ok.mp hcompile
    obtain ⟨statement, hstatement, hcompile⟩ := bind_eq_ok.mp hcompile
    obtain ⟨nextCode, hnext, hcode⟩ := bind_eq_ok.mp hcompile
    cases hcode
    obtain ⟨hnever, hendsMatched, hendsFallback, hendsNext⟩ := hends
    have hbehind : nextCode ++ rest ≠ [] := List.append_ne_nil_of_right_ne_nil nextCode hrest
    have hbehindFallback : matchedCode ++ (nextCode ++ rest) ≠ [] :=
      List.append_ne_nil_of_right_ne_nil matchedCode hbehind
    exact (realizes_whenAnyElse hstatement hbehind (ihMatched hmatched hendsMatched hbehind acc)
      (ihFallback hfallback hendsFallback hbehindFallback acc) (hnever acc)).append
      fun a _ => ihNext hnext hendsNext hrest a

end TtyGuard.Bpf
