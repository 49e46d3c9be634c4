/-
# TtyGuard.Proofs.Seccomp.Rejection — what is reported of code that is not a program

`IllFormed` says of one instruction what is wrong with it at its place, by the word that it loads or
by the furthest place that it leads to.  `instructionFault?_eq_some_iff` ties the verifier's check of
one instruction to it, and `firstFault?_eq_some_iff` says that the search stops at the first
instruction with a fault, wherever in longer code it begins.

`Rejected` lists the reasons to refuse code, each under the condition that no earlier one applies:
its length, its first ill-formed instruction, its end.  `ofCode_names_first_fault` says that these
are the errors, each with the numbers that belong to it, and that all other code is a program.
-/
import TtyGuard.Proofs.Bpf.Limits
import TtyGuard.Proofs.Seccomp.Verification

namespace TtyGuard.Seccomp

open Bpf (Instruction wordSize)
open Bpf.Statement (ReturnsLast endsInReturn endsInReturn_iff)

variable {code : List Instruction} {index : Nat} {ix : Instruction} {e : VerificationError}

/-! ## One instruction -/

/-- The instruction at `index` has no place in the code, and this is what is wrong with it: it loads
what is none of the sixteen words of a call's record, or its further branch leads out of the code. -/
inductive IllFormed (code : List Instruction) (index : Nat) : VerificationError → Prop where
  | load {offset : UInt32} (hix : code[index]? = some (.load offset))
    (hword : ¬ ∃ word < 16, offset.toNat = 4 * word) :
    IllFormed code index (.invalidLoad index offset)
  | jump {condition : Bpf.Condition} {k : UInt32} {jt jf : UInt8}
    (hix : code[index]? = some (.jump condition k jt jf))
    (htarget : code.length ≤ index + 1 + max jt.toNat jf.toNat) :
    IllFormed code index
      (.jumpOutOfBounds index (index + 1 + max jt.toNat jf.toNat) code.length)

/-- An aligned offset inside the record is that of one of its words. -/
theorem aligned_and_inBounds_iff {offset : UInt32} :
    (offset.toNat % wordSize = 0 ∧ Call.inBounds offset (.ofNat wordSize) = true) ↔
      ∃ word < 16, offset.toNat = 4 * word := by
  rw [inBounds_word_iff, wordSize]
  constructor
  · rintro ⟨haligned, hinside⟩
    exact ⟨offset.toNat / 4, by omega, by omega⟩
  · rintro ⟨word, hword, hoffset⟩
    omega

theorem instructionFault?_eq_some_iff (hix : code[index]? = some ix) :
    instructionFault? code.length index ix = some e ↔ IllFormed code index e := by
  constructor
  · intro h
    cases ix with
    | load offset =>
      rw [instructionFault?] at h
      split at h
      · cases h
      · next hfault =>
        cases h
        exact .load hix fun hword => hfault (aligned_and_inBounds_iff.mpr hword)
    | jump condition k jt jf =>
      simp only [instructionFault?, toNat_max] at h
      split at h
      · cases h
      · next hfar =>
        cases h
        exact .jump hix (Nat.not_lt.mp hfar)
    | ret k => cases h
  · rintro (⟨hload, hword⟩ | ⟨hjump, htarget⟩)
    · cases hix.symm.trans hload
      exact if_neg fun hfine => hword (aligned_and_inBounds_iff.mp hfine)
    · cases hix.symm.trans hjump
      simp only [instructionFault?, toNat_max, Nat.not_lt.mpr htarget, if_false]

/-- An instruction without a fault has its place. -/
theorem instructionFault?_eq_none_iff (hix : code[index]? = some ix) :
    instructionFault? code.length index ix = none ↔ ∀ e, ¬ IllFormed code index e := by
  rw [Option.eq_none_iff_forall_ne_some]
  exact forall_congr' fun e => not_congr (instructionFault?_eq_some_iff hix)

theorem IllFormed.exists_getElem? (h : IllFormed code index e) : ∃ ix, code[index]? = some ix := by
  cases h with
  | load hix hword => exact ⟨_, hix⟩
  | jump hix htarget => exact ⟨_, hix⟩

/-! ## The first of all instructions -/

/-- The fault that the search finds is that of the first instruction that has one. -/
theorem firstFault?_eq_some_iff (code : List Instruction) (length index : Nat) :
    firstFault? length index code = some e ↔
      ∃ i ix, code[i]? = some ix ∧ instructionFault? length (index + i) ix = some e ∧
        ∀ j < i, ∀ jx, code[j]? = some jx → instructionFault? length (index + j) jx = none := by
  induction code generalizing index with
  | nil => simp [firstFault?]
  | cons first rest ih =>
    rw [firstFault?_cons]
    cases hfirst : instructionFault? length index first with
    | some found =>
      rw [Option.some_or]
      constructor
      · rintro ⟨⟩
        exact ⟨0, first, rfl, hfirst, fun j hj => absurd hj (Nat.not_lt_zero j)⟩
      · rintro ⟨i, ix, hix, hfault, hbefore⟩
        cases i with
        | zero =>
          cases hix
          exact hfirst.symm.trans hfault
        | succ i =>
          have hnone := hbefore 0 (Nat.succ_pos i) first rfl
          cases hfirst.symm.trans hnone
    | none =>
      rw [Option.none_or, ih]
      -- Place `i` of the rest is place `i + 1` of the code.
      have hplace (i : Nat) : index + 1 + i = index + (i + 1) := by omega
      simp only [hplace]
      constructor
      · rintro ⟨i, ix, hix, hfault, hbefore⟩
        refine ⟨i + 1, ix, hix, hfault, fun j hj jx hjx => ?_⟩
        cases j with
        | zero =>
          cases hjx
          exact hfirst
        | succ j => exact hbefore j (Nat.lt_of_succ_lt_succ hj) jx hjx
      · rintro ⟨i, ix, hix, hfault, hbefore⟩
        cases i with
        | zero =>
          cases hix
          cases hfirst.symm.trans hfault
        | succ i =>
          exact ⟨i, ix, hix, hfault, fun j hj => hbefore (j + 1) (Nat.succ_lt_succ hj)⟩

/-- The search through all of the code finds the first ill-formed instruction. -/
theorem firstFault?_eq_some_iff_illFormed :
    firstFault? code.length 0 code = some e ↔
      ∃ i, IllFormed code i e ∧ ∀ j < i, ∀ other, ¬ IllFormed code j other := by
  rw [firstFault?_eq_some_iff]
  simp only [Nat.zero_add]
  constructor
  · rintro ⟨i, ix, hix, hfault, hbefore⟩
    refine ⟨i, (instructionFault?_eq_some_iff hix).mp hfault, fun j hj other hother => ?_⟩
    obtain ⟨jx, hjx⟩ := hother.exists_getElem?
    exact (instructionFault?_eq_none_iff hjx).mp (hbefore j hj jx hjx) other hother
  · rintro ⟨i, hfault, hbefore⟩
    obtain ⟨ix, hix⟩ := hfault.exists_getElem?
    exact ⟨i, ix, hix, (instructionFault?_eq_some_iff hix).mpr hfault, fun j hj jx hjx =>
      (instructionFault?_eq_none_iff hjx).mpr (hbefore j hj)⟩

theorem firstFault?_eq_none_iff_illFormed :
    firstFault? code.length 0 code = none ↔ ∀ i other, ¬ IllFormed code i other := by
  rw [firstFault?_eq_none_iff]
  simp only [Nat.zero_add]
  constructor
  · intro hnone i other hother
    obtain ⟨ix, hix⟩ := hother.exists_getElem?
    exact (instructionFault?_eq_none_iff hix).mp (hnone i ix hix) other hother
  · intro hfine i ix hix
    exact (instructionFault?_eq_none_iff hix).mpr (hfine i)

/-! ## The whole code -/

/-- Why code is refused; an earlier reason hides the later ones. -/
inductive Rejected (code : List Instruction) : VerificationError → Prop where
  | empty (hnil : code = []) : Rejected code .empty
  | tooManyInstructions (hlength : 4096 < code.length) :
    Rejected code (.tooManyInstructions code.length 4096)
  | illFormed {index : Nat} {e : VerificationError} (hne : code ≠ []) (hlength : code.length ≤ 4096)
    (hfault : IllFormed code index e) (hfirst : ∀ j < index, ∀ other, ¬ IllFormed code j other) :
    Rejected code e
  | missingReturn (hne : code ≠ []) (hlength : code.length ≤ 4096)
    (hfine : ∀ i other, ¬ IllFormed code i other) (hreturn : ¬ ReturnsLast code) :
    Rejected code .missingReturn

/-- Between the two limits, the instructions and the end of the code decide. -/
theorem fault?_of_length (hne : code ≠ []) (hlength : code.length ≤ 4096) :
    fault? code = (firstFault? code.length 0 code).or
      (if endsInReturn code then none else some .missingReturn) := by
  have hlength : ¬ maxInstructions < code.length := Nat.not_lt.mpr hlength
  rw [fault?, if_neg (by simpa using hne), if_neg hlength]
  cases firstFault? code.length 0 code with
  | none => rfl
  | some e => rfl

/-- What is wrong first is reported. -/
theorem Rejected.fault?_eq (h : Rejected code e) : fault? code = some e := by
  cases h with
  | empty hnil =>
    subst hnil
    rfl
  | tooManyInstructions hlength =>
    have hne : code ≠ [] := by
      rintro rfl
      cases hlength
    rw [fault?, if_neg (by simpa using hne)]
    exact if_pos hlength
  | illFormed hne hlength hfault hfirst =>
    rw [fault?_of_length hne hlength,
      firstFault?_eq_some_iff_illFormed.mpr ⟨_, hfault, hfirst⟩, Option.some_or]
  | missingReturn hne hlength hfine hreturn =>
    rw [fault?_of_length hne hlength, firstFault?_eq_none_iff_illFormed.mpr hfine, Option.none_or]
    exact if_neg fun hends => hreturn (endsInReturn_iff.mp hends)

/-- Nothing else is reported. -/
theorem rejected_of_fault? (h : fault? code = some e) : Rejected code e := by
  by_cases hne : code = []
  · subst hne
    cases h
    exact .empty rfl
  by_cases hlength : code.length ≤ 4096
  · rw [fault?_of_length hne hlength] at h
    cases hfirst : firstFault? code.length 0 code with
    | some found =>
      rw [hfirst, Option.some_or] at h
      cases h
      obtain ⟨i, hfault, hbefore⟩ := firstFault?_eq_some_iff_illFormed.mp hfirst
      exact .illFormed hne hlength hfault hbefore
    | none =>
      rw [hfirst, Option.none_or] at h
      split at h
      · cases h
      · next hends =>
        cases h
        exact .missingReturn hne hlength (firstFault?_eq_none_iff_illFormed.mp hfirst)
          fun hreturn => hends (endsInReturn_iff.mpr hreturn)
  · have hrejected : Rejected code (.tooManyInstructions code.length 4096) :=
      .tooManyInstructions (Nat.not_le.mp hlength)
    cases hrejected.fault?_eq.symm.trans h
    exact hrejected

theorem ofCode_eq_error_iff_rejected : Program.ofCode code = .error e ↔ Rejected code e := by
  rw [Program.ofCode_eq_error_iff]
  exact ⟨rejected_of_fault?, Rejected.fault?_eq⟩

/-- The last instruction goes nowhere, so one that has its place and is no return is a load. -/
theorem exists_load_last (hne : code ≠ []) (hfine : ∀ i other, ¬ IllFormed code i other)
    (hreturn : ¬ ReturnsLast code) : ∃ front offset, code = front ++ [.load offset] := by
  obtain ⟨front, last, rfl⟩ : ∃ front last, code = front ++ [last] :=
    ⟨_, _, (List.dropLast_concat_getLast hne).symm⟩
  have hlast : (front ++ [last])[front.length]? = some last := List.getElem?_concat_length
  cases last with
  | load offset => exact ⟨front, offset, rfl⟩
  | jump condition k jt jf =>
    have hout : (front ++ [Instruction.jump condition k jt jf]).length ≤
        front.length + 1 + max jt.toNat jf.toNat := by
      rw [List.length_append, List.length_singleton]
      exact Nat.le_add_right _ _
    exact absurd (.jump hlast hout) (hfine front.length _)
  | ret k => exact absurd ⟨front, k, rfl⟩ hreturn

/-- Code in which nothing is wrong is a program. -/
theorem exists_ofCode_eq_ok_iff :
    (∃ p, Program.ofCode code = .ok p) ↔
      code ≠ [] ∧ code.length ≤ 4096 ∧ (∀ i other, ¬ IllFormed code i other) ∧
        ReturnsLast code := by
  constructor
  · rintro ⟨p, hp⟩
    have hcode := Program.ofCode_eq_ok_iff.mp hp
    obtain ⟨hne, hlength, hinstruction, hends⟩ := hcode ▸ p.wellFormed
    refine ⟨hne, hlength, fun i other hother => ?_, endsInReturn_iff.mp hends⟩
    obtain ⟨ix, hix⟩ := hother.exists_getElem?
    exact (instructionFault?_eq_none_iff hix).mp (hinstruction i ix hix) other hother
  · rintro ⟨hne, hlength, hfine, hreturn⟩
    cases hresult : Program.ofCode code with
    | ok p => exact ⟨p, rfl⟩
    | error e =>
      -- Each reason to refuse the code is excluded.
      cases ofCode_eq_error_iff_rejected.mp hresult with
      | empty hnil => exact absurd hnil hne
      | tooManyInstructions hlong => exact absurd hlength (Nat.not_le.mpr hlong)
      | illFormed _ _ hfault _ => exact absurd hfault (hfine _ _)
      | missingReturn _ _ _ hopen => exact absurd hreturn hopen

/-- **What is wrong first is reported.**  The errors of code are the reasons to refuse it, with the
numbers that belong to them; one that misses a return at its end has a load there.  Code with
nothing wrong is taken as it is. -/
theorem ofCode_names_first_fault (code : List Instruction) :
    (∀ e, Program.ofCode code = .error e ↔ Rejected code e) ∧
      (Program.ofCode code = .error .missingReturn →
        ∃ front offset, code = front ++ [.load offset]) ∧
      ((∃ p, Program.ofCode code = .ok p) ↔
        code ≠ [] ∧ code.length ≤ 4096 ∧ (∀ i other, ¬ IllFormed code i other) ∧
          ReturnsLast code) ∧
      ∀ p, Program.ofCode code = .ok p → p.code = code := by
  refine ⟨fun e => ofCode_eq_error_iff_rejected, fun h => ?_, exists_ofCode_eq_ok_iff,
    fun p => Program.ofCode_eq_ok_iff.mp⟩
  cases ofCode_eq_error_iff_rejected.mp h with
  | illFormed _ _ hfault _ => cases hfault
  | missingReturn hne _ hfine hreturn => exact exists_load_last hne hfine hreturn

/-- Of a jump that leads too far and a load at the largest aligned offset, the one in front is
reported.  Code that misses only a return at its end becomes a program with one. -/
theorem ofCode_names_first_fault_far_jump :
    let jump : Instruction := .jump .bitSet 1 255 0
    Rejected [.load 60, jump, .load 0xfffffffc] (.jumpOutOfBounds 1 257 3) ∧
      Rejected [.load 60, .load 0xfffffffc, jump] (.invalidLoad 1 0xfffffffc) ∧
      Program.ofCode [.jump .equal 0 0 0, .load 60] = .error .missingReturn ∧
      (∃ front offset, [.jump .equal 0 0 0, .load 60] = front ++ [Instruction.load offset]) ∧
      ∃ p, Program.ofCode [.jump .equal 0 0 0, .load 60, .ret 0] = .ok p ∧ p.code.length = 3 := by
  intro jump
  have hopen : Program.ofCode [.jump .equal 0 0 0, .load 60] = .error .missingReturn :=
    Program.ofCode_eq_error_iff.mpr (by decide)
  refine ⟨?_, ?_, hopen, (ofCode_names_first_fault _).2.1 hopen, ?_⟩
  · exact ((ofCode_names_first_fault _).1 _).mp (Program.ofCode_eq_error_iff.mpr (by decide))
  · exact ((ofCode_names_first_fault _).1 _).mp (Program.ofCode_eq_error_iff.mpr (by decide))
  · have hfine : Program.ofCode [.jump .equal 0 0 0, .load 60, .ret 0] =
        .ok ⟨[.jump .equal 0 0 0, .load 60, .ret 0], by decide⟩ :=
      Program.ofCode_eq_ok_iff.mpr rfl
    refine ⟨_, hfine, ?_⟩
    rw [(ofCode_names_first_fault _).2.2.2 _ hfine]
    rfl

end TtyGuard.Seccomp
