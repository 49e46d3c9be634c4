/-
# TtyGuard.Proofs.Bpf.Limits — which statements under several terms exist

Four things can be wrong with the parts of such a statement, and they are looked for in a fixed
order.  `Refused` lists them, each under the condition that nothing earlier is wrong, without
mention of jumps or their distances.  `whenAnyElse_eq_error_iff` says that these are the errors, and
`whenAnyElse_exact` adds that the limit in the last of them is the true one: the first jump of a
condition has the furthest to go, so how many terms there may be depends on the fallback alone.
-/
import TtyGuard.Proofs.Bpf.Branching

namespace TtyGuard.Bpf.Statement

variable {terms : List Term} {matched fallback code : List Instruction} {e : StatementError}

/-- The last instruction of the code is a return. -/
def ReturnsLast (code : List Instruction) : Prop := ∃ front k, code = front ++ [.ret k]

theorem endsInReturn_iff : endsInReturn code = true ↔ ReturnsLast code := by
  rw [endsInReturn, Option.any_eq_true]
  constructor
  · rintro ⟨last, hlast, hreturn⟩
    obtain ⟨front, rfl⟩ := List.getLast?_eq_some_iff.mp hlast
    cases last with
    | load offset => cases hreturn
    | jump condition k jt jf => cases hreturn
    | ret k => exact ⟨front, k, rfl⟩
  · rintro ⟨front, k, rfl⟩
    exact ⟨.ret k, List.getLast?_concat, rfl⟩

/-! ## What can be wrong -/

/-- What is wrong with the parts of a statement under several terms; the matched body never is. -/
inductive Refused (terms : List Term) (fallback : List Instruction) : StatementError → Prop where
  | emptyCondition (hterms : terms = []) : Refused terms fallback .emptyCondition
  | fallThroughFallback (hterms : terms ≠ []) (hreturn : ¬ ReturnsLast fallback) :
    Refused terms fallback .fallThroughFallback
  | tooLargeBody (hterms : terms ≠ []) (hreturn : ReturnsLast fallback)
    (hlength : 255 < fallback.length) : Refused terms fallback (.tooLargeBody fallback.length)
  | tooLargeCondition (hterms : terms ≠ []) (hreturn : ReturnsLast fallback)
    (hlength : fallback.length ≤ 255) (hsum : 256 < terms.length + fallback.length) :
    Refused terms fallback (.tooLargeCondition terms.length (256 - fallback.length))

/-- Past the first two checks only lengths matter. -/
theorem whenAnyElse_of_returnsLast (hterms : terms ≠ []) (hreturn : ReturnsLast fallback) :
    whenAnyElse terms matched fallback =
      if 255 < fallback.length then .error (.tooLargeBody fallback.length)
      else if 256 < terms.length + fallback.length then
        .error (.tooLargeCondition terms.length (256 - fallback.length))
      else .ok (termJumps fallback.length terms ++ fallback ++ matched) := by
  have hempty : ¬ terms.isEmpty = true := by simpa using hterms
  have hends : ¬ (!endsInReturn fallback) = true := by simpa using endsInReturn_iff.mpr hreturn
  rw [whenAnyElse_eq, if_neg hempty, if_neg hends]
  show (if 255 < fallback.length then _ else _) = _
  split
  · rfl
  · next hlength =>
    have hmax : maxTerms fallback.length = 256 - fallback.length := by
      unfold maxTerms maxSkip
      omega
    have hlimit : 256 - fallback.length < terms.length ↔
        256 < terms.length + fallback.length := by omega
    simp only [hmax, hlimit]

/-- What is wrong first is reported. -/
theorem Refused.whenAnyElse_eq (h : Refused terms fallback e) :
    whenAnyElse terms matched fallback = .error e := by
  cases h with
  | emptyCondition hterms =>
    subst hterms
    rfl
  | fallThroughFallback hterms hreturn =>
    have hempty : ¬ terms.isEmpty = true := by simpa using hterms
    have hends : (!endsInReturn fallback) = true := by simpa [← endsInReturn_iff] using hreturn
    rw [Statement.whenAnyElse_eq, if_neg hempty, if_pos hends]
  | tooLargeBody hterms hreturn hlength =>
    rw [whenAnyElse_of_returnsLast hterms hreturn, if_pos hlength]
  | tooLargeCondition hterms hreturn hlength hsum =>
    rw [whenAnyElse_of_returnsLast hterms hreturn, if_neg (Nat.not_lt.mpr hlength), if_pos hsum]

/-- Nothing else is reported. -/
theorem refused_of_whenAnyElse (h : whenAnyElse terms matched fallback = .error e) :
    Refused terms fallback e := by
  by_cases hterms : terms = []
  · subst hterms
    cases h
    exact .emptyCondition rfl
  by_cases hreturn : ReturnsLast fallback
  · rw [whenAnyElse_of_returnsLast hterms hreturn] at h
    split at h
    · next hlength =>
      cases h
      exact .tooLargeBody hterms hreturn hlength
    next hlength =>
    split at h
    · next hsum =>
      cases h
      exact .tooLargeCondition hterms hreturn (Nat.not_lt.mp hlength) hsum
    · cases h
  · have hrefused : Refused terms fallback .fallThroughFallback :=
      .fallThroughFallback hterms hreturn
    rw [hrefused.whenAnyElse_eq] at h
    cases h
    exact hrefused

theorem whenAnyElse_eq_error_iff :
    whenAnyElse terms matched fallback = .error e ↔ Refused terms fallback e :=
  ⟨refused_of_whenAnyElse, Refused.whenAnyElse_eq⟩

theorem exists_whenAnyElse_iff :
    (∃ code, whenAnyElse terms matched fallback = .ok code) ↔
      terms ≠ [] ∧ ReturnsLast fallback ∧ fallback.length ≤ 255 ∧
        terms.length + fallback.length ≤ 256 := by
  constructor
  · rintro ⟨code, h⟩
    obtain ⟨hterms, hreturn, hsum, -⟩ := whenAnyElse_eq_ok h
    -- There is at least one term, so the bound on the sum holds the fallback below 256.
    have hpos : 0 < terms.length := List.length_pos_iff.mpr hterms
    unfold maxSkip at hsum
    exact ⟨hterms, endsInReturn_iff.mp hreturn, by omega, hsum⟩
  · rintro ⟨hterms, hreturn, hlength, hsum⟩
    rw [whenAnyElse_of_returnsLast hterms hreturn, if_neg (Nat.not_lt.mpr hlength),
      if_neg (Nat.not_lt.mpr hsum)]
    exact ⟨_, rfl⟩

/-- One instruction for each term, and those of the two bodies. -/
theorem length_eq_of_whenAnyElse (h : whenAnyElse terms matched fallback = .ok code) :
    code.length = terms.length + fallback.length + matched.length := by
  obtain ⟨-, -, -, rfl⟩ := whenAnyElse_eq_ok h
  rw [List.length_append, List.length_append, length_termJumps]

/-- **The exact limits of a statement under several terms.**  It exists if and only if there is a
term, the fallback ends in a return, and the furthest jumps reach; it then has one instruction for
each term and those of the two bodies.  Otherwise the first thing that is wrong is reported.  A
reported limit on the terms is met by every shorter condition in front of the same fallback, and
reported again for every longer one. -/
theorem whenAnyElse_exact (terms : List Term) (matched fallback : List Instruction) :
    ((∃ code, whenAnyElse terms matched fallback = .ok code) ↔
      terms ≠ [] ∧ ReturnsLast fallback ∧ fallback.length ≤ 255 ∧
        terms.length + fallback.length ≤ 256) ∧
    (∀ code, whenAnyElse terms matched fallback = .ok code →
      code.length = terms.length + fallback.length + matched.length) ∧
    (∀ e, whenAnyElse terms matched fallback = .error e ↔ Refused terms fallback e) ∧
    ∀ count limit, whenAnyElse terms matched fallback = .error (.tooLargeCondition count limit) →
      count = terms.length ∧ limit < count ∧
        ∀ (others : List Term) (matched' : List Instruction),
          (others ≠ [] → others.length ≤ limit →
            ∃ code, whenAnyElse others matched' fallback = .ok code) ∧
          (limit < others.length → whenAnyElse others matched' fallback =
            .error (.tooLargeCondition others.length limit)) := by
  refine ⟨exists_whenAnyElse_iff, fun code h => length_eq_of_whenAnyElse h,
    fun e => whenAnyElse_eq_error_iff, fun count limit h => ?_⟩
  rcases whenAnyElse_eq_error_iff.mp h with _ | _ | _ | ⟨hterms, hreturn, hlength, hsum⟩
  refine ⟨rfl, by omega, fun others matched' => ⟨fun hothers hfew => ?_, fun hmany => ?_⟩⟩
  · exact exists_whenAnyElse_iff.mpr ⟨hothers, hreturn, hlength, by omega⟩
  · have hothers : others ≠ [] := List.length_pos_iff.mp (by omega)
    exact whenAnyElse_eq_error_iff.mpr (.tooLargeCondition hothers hreturn hlength (by omega))

/-- In front of sixteen returns the limit is 240: one term more is refused, and 240 terms make a
statement of 256 instructions and the matched body. -/
theorem whenAnyElse_exact_sixteen_returns :
    let fallback : List Instruction := List.replicate 16 (.ret 2)
    whenAnyElse (List.replicate 241 ⟨.equal, 0⟩) [] fallback = .error (.tooLargeCondition 241 240) ∧
      ∃ code, whenAnyElse (List.replicate 240 ⟨.bitSet, 1⟩) [.ret 1] fallback = .ok code ∧
        code.length = 257 := by
  intro fallback
  have hreturn : ReturnsLast fallback := ⟨List.replicate 15 (.ret 2), 2, rfl⟩
  have hterms : (List.replicate 241 (⟨.equal, 0⟩ : Term)) ≠ [] := List.cons_ne_nil _ _
  have hsum : 256 < (List.replicate 241 (⟨.equal, 0⟩ : Term)).length + fallback.length := by
    rw [List.length_replicate, List.length_replicate]
    decide
  have herror : whenAnyElse (List.replicate 241 ⟨.equal, 0⟩) [] fallback =
      .error (.tooLargeCondition 241 240) := by
    have hrefused := Refused.tooLargeCondition hterms hreturn (by decide) hsum
    rw [List.length_replicate] at hrefused
    exact ((whenAnyElse_exact _ _ _).2.2.1 _).mpr hrefused
  obtain ⟨-, -, hlimit⟩ := (whenAnyElse_exact _ _ _).2.2.2 _ _ herror
  obtain ⟨code, hcode⟩ := (hlimit (List.replicate 240 ⟨.bitSet, 1⟩) [.ret 1]).1
    (List.cons_ne_nil _ _) (Nat.le_of_eq List.length_replicate)
  refine ⟨herror, code, hcode, ?_⟩
  rw [(whenAnyElse_exact _ _ _).2.1 code hcode, List.length_replicate, List.length_replicate]
  rfl

end TtyGuard.Bpf.Statement
