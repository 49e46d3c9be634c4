/-
# TtyGuard.Proofs.Seccomp.Recovery — a call is recovered from its record by loads

Code knows of a call what its loads yield.  This module says that they yield all of it: the record
is sixteen words, an aligned load yields one of them, and `ofBytes` puts the call together from the
sixteen.  That recovers every call (`ofBytes_toBytes`), so no two calls have one record, and it finds
a call behind any 64 bytes (`toBytes_ofBytes`), so the record has no byte that no field stands for.
The check of a load's bounds is exact as well: it accepts what lies in the record and cannot be
deceived by an offset so large that the sum wraps around (`inBounds_iff_no_wrap`).
-/
import Mathlib
import TtyGuard.Proofs.Bpf.Execution
import TtyGuard.Proofs.Seccomp.Diagnosis
import TtyGuard.Proofs.Seccomp.Layout

namespace TtyGuard

/-- Pieces of one length, taken one after the other, are the front of the list. -/
theorem flatMap_range_take_drop {α : Type} (l : List α) (k n : Nat) :
    (List.range n).flatMap (fun i => (l.drop (k * i)).take k) = l.take (k * n) := by
  induction n with
  | zero => rfl
  | succ n ih =>
    rw [List.range_succ, List.flatMap_append, ih, List.flatMap_singleton, Nat.mul_succ,
      List.take_add]

namespace Seccomp.Call

open Bpf (Instruction State wordAt? wordSize)

variable {call : Call} {bytes : List UInt8} {offset size word : UInt32} {i : Nat}

/-! ## The words of 64 bytes -/

/-- Word `i` as a load yields it, or zero if there is none. -/
def loadedWord (bytes : List UInt8) (i : Nat) : UInt32 :=
  (wordAt? bytes (.ofNat (wordSize * i))).getD 0

theorem toNat_wordOffset (hi : i < 16) :
    (UInt32.ofNat (wordSize * i)).toNat = wordSize * i := by
  rw [UInt32.toNat_ofNat', Nat.mod_eq_of_lt]
  simp only [wordSize]
  omega

theorem leBytes_loadedWord (hlength : bytes.length = byteSize) (hi : i < 16) :
    leBytes wordSize (loadedWord bytes i).toNat = (bytes.drop (wordSize * i)).take wordSize := by
  have hinside : wordSize * i + wordSize ≤ bytes.length := by
    simp only [hlength, wordSize, byteSize]
    omega
  have hfour : ((bytes.drop (wordSize * i)).take wordSize).length = wordSize := by
    rw [List.length_take, List.length_drop]
    omega
  have hvalue : leValue ((bytes.drop (wordSize * i)).take wordSize) < 2 ^ 32 := by
    have hlt := leValue_lt ((bytes.drop (wordSize * i)).take wordSize)
    rwa [hfour] at hlt
  have hback := leBytes_leValue ((bytes.drop (wordSize * i)).take wordSize)
  rw [hfour] at hback
  rw [loadedWord, wordAt?, toNat_wordOffset hi, if_pos hinside, Option.getD_some,
    UInt32.toNat_ofNat', Nat.mod_eq_of_lt hvalue, hback]

/-- As many bytes as a record has are the bytes of sixteen words. -/
theorem wordBytes_loadedWord (hlength : bytes.length = byteSize) :
    wordBytes ((List.range 16).map (loadedWord bytes)) = bytes := by
  have hwords : ∀ i ∈ List.range 16, leBytes wordSize (loadedWord bytes i).toNat =
      (bytes.drop (wordSize * i)).take wordSize := by
    intro i hi
    exact leBytes_loadedWord hlength (List.mem_range.mp hi)
  calc wordBytes ((List.range 16).map (loadedWord bytes))
      = (List.range 16).flatMap fun i => leBytes wordSize (loadedWord bytes i).toNat := by
        rw [wordBytes, List.flatMap_map]
    _ = (List.range 16).flatMap fun i => (bytes.drop (wordSize * i)).take wordSize :=
        List.flatMap_congr hwords
    _ = bytes.take (wordSize * 16) := flatMap_range_take_drop bytes wordSize 16
    _ = bytes := List.take_of_length_le (Nat.le_of_eq hlength)

@[simp] theorem length_words (call : Call) : call.words.length = 16 := by
  have hlength : wordSize * call.words.length = byteSize := by
    rw [← length_wordBytes, ← toBytes_eq_words, length_toBytes]
  simp only [wordSize, byteSize] at hlength
  omega

theorem loadedWord_toBytes (hword : call.words[i]? = some word) :
    loadedWord call.toBytes i = word := by
  have hi : i < 16 := by
    obtain ⟨hi, -⟩ := List.getElem?_eq_some_iff.mp hword
    rwa [length_words] at hi
  rw [loadedWord, call.wordAt?_toBytes (toNat_wordOffset hi), hword, Option.getD_some]

/-! ## The halves of a field -/

theorem lowHalf_eq (value : UInt64) : value.toUInt32 = .ofNat (value.toNat % 2 ^ 32) := by
  apply UInt32.toNat_inj.mp
  rw [UInt64.toNat_toUInt32, UInt32.toNat_ofNat', Nat.mod_mod]

theorem highHalf_eq (value : UInt64) :
    (value >>> 32).toUInt32 = .ofNat (value.toNat / 2 ^ 32) := by
  apply UInt32.toNat_inj.mp
  rw [toNat_highHalf, UInt32.toNat_ofNat']

/-- The 64-bit field with these halves. -/
def joinHalves (low high : UInt32) : UInt64 := .ofNat (low.toNat + 2 ^ 32 * high.toNat)

@[simp] theorem halves_joinHalves (low high : UInt32) :
    halves (joinHalves low high) = [low, high] := by
  have hlow : low.toNat < 2 ^ 32 := low.toNat_lt
  have hhigh : high.toNat < 2 ^ 32 := high.toNat_lt
  have hvalue : (joinHalves low high).toNat = low.toNat + 2 ^ 32 * high.toNat := by
    rw [joinHalves, UInt64.toNat_ofNat', Nat.mod_eq_of_lt]
    omega
  have hmod : (low.toNat + 2 ^ 32 * high.toNat) % 2 ^ 32 = low.toNat := by omega
  have hdiv : (low.toNat + 2 ^ 32 * high.toNat) / 2 ^ 32 = high.toNat := by omega
  rw [halves, lowHalf_eq, highHalf_eq, hvalue, hmod, hdiv, UInt32.ofNat_toNat, UInt32.ofNat_toNat]

@[simp] theorem joinHalves_halves (value : UInt64) :
    joinHalves value.toUInt32 (value >>> 32).toUInt32 = value := by
  have hvalue : value.toNat < 2 ^ 64 := value.toNat_lt
  apply UInt64.toNat_inj.mp
  rw [joinHalves, lowHalf_eq, highHalf_eq, UInt64.toNat_ofNat', UInt32.toNat_ofNat',
    UInt32.toNat_ofNat']
  omega

/-! ## Calls and records -/

/-- The call whose record the bytes are, put together from sixteen loaded words. -/
def ofBytes (bytes : List UInt8) : Call where
  nr := (loadedWord bytes 0).toInt32
  arch := loadedWord bytes 1
  instructionPointer := joinHalves (loadedWord bytes 2) (loadedWord bytes 3)
  args := .ofFn fun i =>
    joinHalves (loadedWord bytes (2 * i.val + 4)) (loadedWord bytes (2 * i.val + 5))

theorem words_ofBytes (bytes : List UInt8) :
    (ofBytes bytes).words = (List.range 16).map (loadedWord bytes) := by
  simp only [words, ofBytes, Vector.toList_ofFn]
  simp [List.ofFn_succ, List.range_succ]

/-- Loads recover a call from its record. -/
@[simp] theorem ofBytes_toBytes (call : Call) : ofBytes call.toBytes = call := by
  have hnr : loadedWord call.toBytes 0 = call.nr.toUInt32 := loadedWord_toBytes rfl
  have harch : loadedWord call.toBytes 1 = call.arch := loadedWord_toBytes rfl
  have hlow : loadedWord call.toBytes 2 = call.instructionPointer.toUInt32 :=
    loadedWord_toBytes rfl
  have hhigh : loadedWord call.toBytes 3 = (call.instructionPointer >>> 32).toUInt32 :=
    loadedWord_toBytes rfl
  have hargs : (Vector.ofFn fun i : Fin 6 => joinHalves (loadedWord call.toBytes (2 * i.val + 4))
      (loadedWord call.toBytes (2 * i.val + 5))) = call.args := by
    apply Vector.ext
    intro i hi
    obtain ⟨hlow, hhigh⟩ := call.getElem?_words_arg hi
    rw [Vector.getElem_ofFn, loadedWord_toBytes hlow, loadedWord_toBytes hhigh, joinHalves_halves]
  rw [ofBytes, hnr, harch, hlow, hhigh, hargs, Int32.toInt32_toUInt32, joinHalves_halves]

/-- Any bytes of the right number are the record of the call that loads find in them. -/
theorem toBytes_ofBytes (hlength : bytes.length = byteSize) :
    (ofBytes bytes).toBytes = bytes := by
  rw [toBytes_eq_words, words_ofBytes, wordBytes_loadedWord hlength]

theorem toBytes_injective : Function.Injective toBytes :=
  Function.LeftInverse.injective ofBytes_toBytes

theorem length_eq_iff_existsUnique :
    bytes.length = byteSize ↔ ∃! call : Call, call.toBytes = bytes := by
  constructor
  · intro hlength
    refine ⟨ofBytes bytes, toBytes_ofBytes hlength, ?_⟩
    rintro call rfl
    exact (ofBytes_toBytes call).symm
  · rintro ⟨call, rfl, -⟩
    exact length_toBytes call

/-! ## What a load yields -/

/-- A load at `offset` puts `word` into the accumulator, wherever it stands and whatever was loaded
before. -/
def Yields (call : Call) (offset word : UInt32) : Prop :=
  ∀ (index : Nat) (acc : UInt32) (rest : List Instruction),
    State.step call.toBytes ⟨index, acc, .load offset :: rest⟩ = .next ⟨index + 1, word, rest⟩

theorem yields_iff : call.Yields offset word ↔ wordAt? call.toBytes offset = some word := by
  constructor
  · intro h
    have hstep := h 0 0 []
    cases hword : wordAt? call.toBytes offset with
    | none =>
      rw [State.step_load_fault hword] at hstep
      cases hstep
    | some loaded =>
      rw [State.step_load hword] at hstep
      cases hstep
      rfl
  · intro hword index acc rest
    exact State.step_load hword

theorem yields_of_words (hoffset : offset.toNat = wordSize * i)
    (hword : call.words[i]? = some word) : call.Yields offset word :=
  yields_iff.mpr ((call.wordAt?_toBytes hoffset).trans hword)

/-- The two halves of argument `i` stand next to each other, the low one first. -/
theorem yields_arg (call : Call) (i : Fin 6) :
    call.Yields (.ofNat (16 + 8 * i.val)) (.ofNat ((call.args.get i).toNat % 2 ^ 32)) ∧
      call.Yields (.ofNat (20 + 8 * i.val)) (.ofNat ((call.args.get i).toNat / 2 ^ 32)) := by
  have hi : i.val < 6 := i.isLt
  have hlow : 16 + 8 * i.val = wordSize * (2 * i.val + 4) := by
    simp only [wordSize]
    omega
  have hhigh : 20 + 8 * i.val = wordSize * (2 * i.val + 5) := by
    simp only [wordSize]
    omega
  obtain ⟨hfirst, hsecond⟩ := call.getElem?_words_arg hi
  rw [hlow, hhigh, ← lowHalf_eq, ← highHalf_eq]
  exact ⟨yields_of_words (toNat_wordOffset (by omega)) hfirst,
    yields_of_words (toNat_wordOffset (by omega)) hsecond⟩

/-! ## The bounds of a load -/

/-- The sum of offset and size is compared as a number: if it does not fit into a word, the bytes
lie outside. -/
theorem inBounds_iff_no_wrap :
    inBounds offset size = true ↔ offset ≤ offset + size ∧ offset + size ≤ 64 := by
  have hoffset : offset.toNat < 2 ^ 32 := offset.toNat_lt
  have hsize : size.toNat < 2 ^ 32 := size.toNat_lt
  have hbound : (64 : UInt32).toNat = 64 := rfl
  rw [inBounds, decide_eq_true_iff, UInt32.le_iff_toNat_le, UInt32.le_iff_toNat_le,
    UInt32.toNat_add, hbound, byteSize]
  omega

theorem inBounds_iff_exists_yields (call : Call) :
    inBounds offset (.ofNat wordSize) = true ↔ ∃ word, call.Yields offset word := by
  rw [inBounds_word_iff, ← Nat.not_lt, ← wordAt?_toBytes_eq_none_iff call, ← ne_eq,
    Option.ne_none_iff_exists']
  exact exists_congr fun word => yields_iff.symm

/-- **The record loses nothing and every load yields the right field.**  Aligned loads yield the
number, the architecture, and the other fields half by half, the low half first.  No two calls have
one record, and any 64 bytes, but no other number of them, are the record of exactly one call.
Bytes are in bounds exactly if offset and size add up to at most 64, where the sum counts as it is
and not as a word that may have wrapped around; and a load yields a word exactly if its four bytes
are in bounds. -/
theorem toBytes_faithful :
    (∀ call : Call,
      call.Yields 0 call.nr.toUInt32 ∧ call.Yields 4 call.arch ∧
      call.Yields 8 (.ofNat (call.instructionPointer.toNat % 2 ^ 32)) ∧
      call.Yields 12 (.ofNat (call.instructionPointer.toNat / 2 ^ 32)) ∧
      ∀ i : Fin 6,
        call.Yields (.ofNat (16 + 8 * i.val)) (.ofNat ((call.args.get i).toNat % 2 ^ 32)) ∧
        call.Yields (.ofNat (20 + 8 * i.val)) (.ofNat ((call.args.get i).toNat / 2 ^ 32))) ∧
    Function.Injective toBytes ∧
    (∀ bytes : List UInt8, bytes.length = 64 ↔ ∃! call : Call, call.toBytes = bytes) ∧
    (∀ offset size : UInt32,
      (inBounds offset size = true ↔ offset.toNat + size.toNat ≤ 64) ∧
      (inBounds offset size = true ↔ offset ≤ offset + size ∧ offset + size ≤ 64)) ∧
    ∀ (call : Call) (offset : UInt32),
      inBounds offset 4 = true ↔ ∃ word, call.Yields offset word := by
  refine ⟨fun call => ?_, toBytes_injective, fun bytes => length_eq_iff_existsUnique,
    fun offset size => ⟨decide_eq_true_iff, inBounds_iff_no_wrap⟩,
    fun call offset => inBounds_iff_exists_yields call⟩
  rw [← lowHalf_eq, ← highHalf_eq]
  exact ⟨yields_of_words (i := 0) rfl rfl, yields_of_words (i := 1) rfl rfl,
    yields_of_words (i := 2) rfl rfl, yields_of_words (i := 3) rfl rfl, call.yields_arg⟩

end Seccomp.Call

end TtyGuard
