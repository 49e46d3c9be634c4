/-
# TtyGuard.Bpf.Statement — conditional statements as straight-line code with forward jumps

A statement is laid out around code that exists already: one jump in front of a body, or one jump
per term in front of a fallback and a matched body.  A jump skips at most 255 instructions, which
bounds the bodies; the bounds are the only reasons for a statement not to exist, apart from a
condition without terms and a fallback that would run on into the matched body.
-/
import TtyGuard.Bpf.Instruction

namespace TtyGuard.Bpf

/-- One test of the accumulator: how to compare, and with what. -/
structure Term where
  condition : Condition
  k : UInt32
deriving DecidableEq, Repr

/-- Whether the accumulator passes the test. -/
def Term.holds (t : Term) (acc : UInt32) : Bool :=
  t.condition.holds acc t.k

/-- Why a statement cannot be laid out. -/
inductive StatementError where
  /-- The body to skip has `length` instructions, more than a jump can skip. -/
  | tooLargeBody (length : Nat)
  /-- There are more than `max` terms in front of this fallback. -/
  | tooLargeCondition (terms max : Nat)
  /-- The condition has no terms. -/
  | emptyCondition
  /-- The fallback does not end in a return. -/
  | fallThroughFallback
deriving DecidableEq, Repr

/-- The text shown for a statement that cannot be laid out. -/
def StatementError.message : StatementError → String
  | .tooLargeBody length =>
    s!"body contained {length} instructions, which is more than the maximum of 255"
  | .tooLargeCondition terms max =>
    s!"condition contained {terms} instructions, which is more than the maximum of {max} allowed with this body"
  | .emptyCondition => "condition cannot be empty"
  | .fallThroughFallback =>
    "the fallback body must end with a return, otherwise it would run into the matched body"

namespace Statement

/-- The furthest that one jump can skip. -/
def maxSkip : Nat := 255

/-- Whether control cannot run past the end of the code through its last instruction. -/
def endsInReturn (code : List Instruction) : Bool :=
  code.getLast?.any Instruction.isReturn

/-- The jump offset that skips `body`. -/
def skipOffset (body : List Instruction) : Except StatementError UInt8 :=
  if body.length ≤ maxSkip then .ok (.ofNat body.length) else .error (.tooLargeBody body.length)

/-- Runs `body` if the term holds and skips it otherwise. -/
def when (term : Term) (body : List Instruction) : Except StatementError (List Instruction) := do
  let skip ← skipOffset body
  return .jump term.condition term.k 0 skip :: body

/-- Skips `body` if the term holds and runs it otherwise. -/
def whenNot (term : Term) (body : List Instruction) : Except StatementError (List Instruction) := do
  let skip ← skipOffset body
  return .jump term.condition term.k skip 0 :: body

/-- The largest number of terms whose jumps all reach over a fallback of this length. -/
def maxTerms (fallbackLength : Nat) : Nat := maxSkip - fallbackLength + 1

/-- One jump per term: it skips the jumps after it and `beyond` further instructions if its term
holds, and goes on with the next jump otherwise.  Each distance is checked when its jump is made;
`count` is the number of terms of the whole condition. -/
def layTerms (count beyond : Nat) : List Term → Except StatementError (List Instruction)
  | [] => .ok []
  | t :: rest => do
    if maxSkip < rest.length + beyond then throw (.tooLargeCondition count (maxTerms beyond))
    let jumps ← layTerms count beyond rest
    return .jump t.condition t.k (.ofNat (rest.length + beyond)) 0 :: jumps

/-- Runs `matched` if some term holds and `fallback` otherwise.  The fallback stands in front of
the matched body, so it has to end in a return. -/
def whenAnyElse (terms : List Term) (matched fallback : List Instruction) :
    Except StatementError (List Instruction) := do
  if terms.isEmpty then throw .emptyCondition
  if !endsInReturn fallback then throw .fallThroughFallback
  discard <| skipOffset fallback
  let jumps ← layTerms terms.length fallback.length terms
  return jumps ++ fallback ++ matched

/-! ## When a statement exists -/

theorem when_eq (term : Term) (body : List Instruction) :
    when term body =
      if body.length ≤ maxSkip then
        .ok (.jump term.condition term.k 0 (.ofNat body.length) :: body)
      else .error (.tooLargeBody body.length) := by
  unfold when skipOffset
  split <;> rfl

theorem whenNot_eq (term : Term) (body : List Instruction) :
    whenNot term body =
      if body.length ≤ maxSkip then
        .ok (.jump term.condition term.k (.ofNat body.length) 0 :: body)
      else .error (.tooLargeBody body.length) := by
  unfold whenNot skipOffset
  split <;> rfl

/-- The jumps of a condition, whether or not they reach that far. -/
def termJumps (beyond : Nat) : List Term → List Instruction
  | [] => []
  | t :: rest => .jump t.condition t.k (.ofNat (rest.length + beyond)) 0 :: termJumps beyond rest

@[simp] theorem length_termJumps (beyond : Nat) (terms : List Term) :
    (termJumps beyond terms).length = terms.length := by
  induction terms with
  | nil => rfl
  | cons t rest ih => simp [termJumps, ih]

/-- The first jump has the furthest to go, so it is the one that decides. -/
theorem layTerms_cons (count beyond : Nat) (t : Term) (rest : List Term) :
    layTerms count beyond (t :: rest) =
      if maxSkip < rest.length + beyond then
        .error (.tooLargeCondition count (maxTerms beyond))
      else .ok (termJumps beyond (t :: rest)) := by
  induction rest generalizing t with
  | nil =>
    rw [layTerms]
    split
    · rfl
    · rfl
  | cons next rest ih =>
    rw [layTerms, ih]
    split
    · rfl
    · next hfar =>
      have hnear : ¬ maxSkip < rest.length + beyond := by
        rw [List.length_cons] at hfar
        omega
      rw [if_neg hnear]
      rfl

theorem whenAnyElse_eq (terms : List Term) (matched fallback : List Instruction) :
    whenAnyElse terms matched fallback =
      if terms.isEmpty then .error .emptyCondition
      else if !endsInReturn fallback then .error .fallThroughFallback
      else if maxSkip < fallback.length then .error (.tooLargeBody fallback.length)
      else if maxTerms fallback.length < terms.length then
        .error (.tooLargeCondition terms.length (maxTerms fallback.length))
      else .ok (termJumps fallback.length terms ++ fallback ++ matched) := by
  cases terms with
  | nil => rfl
  | cons t rest =>
    rw [whenAnyElse, skipOffset, layTerms_cons]
    by_cases hreturn : endsInReturn fallback
    · by_cases hlength : fallback.length ≤ maxSkip
      · -- The reported limit is the one that the first jump enforces.
        have hlimit : maxTerms fallback.length < (t :: rest).length ↔
            maxSkip < rest.length + fallback.length := by
          rw [maxTerms, List.length_cons]
          omega
        by_cases hmax : maxSkip < rest.length + fallback.length
        · simp only [hreturn, hlength, hmax, hlimit, Nat.not_lt.mpr hlength]; rfl
        · simp only [hreturn, hlength, hmax, hlimit, Nat.not_lt.mpr hlength]; rfl
      · simp only [hreturn, hlength, Nat.not_le.mp hlength]; rfl
    · simp only [hreturn]; rfl

end Statement

end TtyGuard.Bpf
