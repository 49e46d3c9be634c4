/-
# TtyGuard.Proofs.Seccomp.Layout — the record of a call, word by word

A load reads 32 bits, and the record has fields of 32 and of 64 bits.  Seen as words it is regular:
`toBytes_eq_words` lays the record out as sixteen little-endian words, a 64-bit field being its low
half followed by its high half, and `wordAt?_wordBytes` reads word `i` of such a layout at byte
`4 * i`.  Every aligned load therefore reads a whole field of 32 bits or one half of a longer one,
or nothing (`wordAt?_toBytes`).
-/
import Mathlib
import TtyGuard.Seccomp.Evaluation
import TtyGuard.Seccomp.Policy

namespace TtyGuard

/-! ## Bytes of numbers in two parts -/

/-- The bytes of a number are its low bytes followed by the bytes of what is above them. -/
theorem leBytes_add (m n value : Nat) :
    leBytes (m + n) value = leBytes m value ++ leBytes n (value / 256 ^ m) := by
  induction m generalizing value with
  | zero => rw [Nat.zero_add, Nat.pow_zero, Nat.div_one, leBytes, List.nil_append]
  | succ m ih =>
    rw [Nat.succ_add, leBytes, leBytes, ih, List.cons_append, Nat.div_div_eq_div_mul,
      Nat.pow_succ, Nat.mul_comm 256]

/-- Only what fits in the width is laid out. -/
theorem leBytes_mod (width value : Nat) :
    leBytes width (value % 256 ^ width) = leBytes width value := by
  have hlength : (leBytes width value).length = width := length_leBytes width value
  have hvalue : leValue (leBytes width value) = value % 256 ^ width := leValue_leBytes width value
  calc leBytes width (value % 256 ^ width)
      = leBytes (leBytes width value).length (leValue (leBytes width value)) := by
        rw [hlength, hvalue]
    _ = leBytes width value := leBytes_leValue _

/-- The high half of a 64-bit number is what is above its low 32 bits. -/
theorem toNat_highHalf (value : UInt64) :
    (value >>> 32).toUInt32.toNat = value.toNat / 2 ^ 32 % 2 ^ 32 := by
  rw [UInt64.toNat_toUInt32, UInt64.toNat_shiftRight, Nat.shiftRight_eq_div_pow]
  rfl

/-- A 64-bit number is laid out as its low half and then its high half. -/
theorem leBytes_uInt64 (value : UInt64) :
    leBytes 8 value.toNat =
      leBytes 4 value.toUInt32.toNat ++ leBytes 4 (value >>> 32).toUInt32.toNat := by
  have hlow : value.toUInt32.toNat = value.toNat % 256 ^ 4 := UInt64.toNat_toUInt32 value
  have hhigh : (value >>> 32).toUInt32.toNat = value.toNat / 256 ^ 4 % 256 ^ 4 :=
    toNat_highHalf value
  rw [leBytes_add 4 4, hlow, hhigh, leBytes_mod, leBytes_mod]

namespace Seccomp

open Bpf (wordAt? wordSize)

/-! ## Words laid out back to back -/

/-- The bytes of words, one after the other. -/
def wordBytes (words : List UInt32) : List UInt8 :=
  words.flatMap fun word => leBytes wordSize word.toNat

theorem wordBytes_cons (word : UInt32) (words : List UInt32) :
    wordBytes (word :: words) = leBytes wordSize word.toNat ++ wordBytes words := rfl

@[simp] theorem length_wordBytes (words : List UInt32) :
    (wordBytes words).length = wordSize * words.length := by
  induction words with
  | nil => rfl
  | cons word words ih =>
    rw [wordBytes_cons, List.length_append, length_leBytes, ih, List.length_cons, Nat.mul_succ,
      Nat.add_comm]

theorem drop_wordBytes (words : List UInt32) (i : Nat) :
    (wordBytes words).drop (wordSize * i) = wordBytes (words.drop i) := by
  induction i generalizing words with
  | zero => rfl
  | succ i ih =>
    cases words with
    | nil => rw [List.drop_nil]; rfl
    | cons word words =>
      have hsplit : wordSize * (i + 1) = (leBytes wordSize word.toNat).length + wordSize * i := by
        rw [length_leBytes, Nat.mul_succ, Nat.add_comm]
      rw [wordBytes_cons, hsplit, List.drop_length_add_append, ih, List.drop_succ_cons]

/-- Word `i` is read at byte `4 * i`, and nothing behind the last one. -/
theorem wordAt?_wordBytes {offset : UInt32} {i : Nat} (hoffset : offset.toNat = wordSize * i)
    (words : List UInt32) : wordAt? (wordBytes words) offset = words[i]? := by
  rw [wordAt?, length_wordBytes, hoffset, drop_wordBytes]
  by_cases hi : i < words.length
  · have hinside : wordSize * i + wordSize ≤ wordSize * words.length := by
      rw [← Nat.mul_succ]
      exact Nat.mul_le_mul_left wordSize hi
    have hword : (leBytes wordSize words[i].toNat).length = wordSize := length_leBytes _ _
    have hvalue : words[i].toNat % Nat.pow 256 wordSize = words[i].toNat :=
      Nat.mod_eq_of_lt words[i].toNat_lt
    rw [if_pos hinside, List.getElem?_eq_getElem hi, List.drop_eq_getElem_cons hi, wordBytes_cons,
      List.take_left' hword, leValue_leBytes, hvalue, UInt32.ofNat_toNat]
  · have houtside : ¬ wordSize * i + wordSize ≤ wordSize * words.length := by
      rw [← Nat.mul_succ]
      exact fun h => hi (Nat.le_of_mul_le_mul_left h (by decide))
    rw [if_neg houtside, List.getElem?_eq_none (Nat.not_lt.mp hi)]

namespace Call

/-! ## The words of a call -/

/-- The low and the high half of a 64-bit field. -/
def halves (value : UInt64) : List UInt32 := [value.toUInt32, (value >>> 32).toUInt32]

/-- The sixteen words of the call's record. -/
def words (call : Call) : List UInt32 :=
  call.nr.toUInt32 :: call.arch :: halves call.instructionPointer ++
    call.args.toList.flatMap halves

theorem toBytes_eq_words (call : Call) : call.toBytes = wordBytes call.words := by
  have hhalves (value : UInt64) : leBytes 8 value.toNat = wordBytes (halves value) := by
    rw [leBytes_uInt64]
    simp only [wordBytes, halves, wordSize, List.flatMap_cons, List.flatMap_nil, List.append_nil]
  have hargs : (call.args.toList.flatMap fun arg => leBytes 8 arg.toNat) =
      wordBytes (call.args.toList.flatMap halves) := by
    simp only [wordBytes, List.flatMap_assoc]
    simp only [hhalves, wordBytes]
  rw [toBytes, hargs, hhalves]
  simp only [words, wordBytes, wordSize, List.flatMap_cons, List.flatMap_append, List.cons_append,
    List.append_assoc]

/-- An aligned load reads a word of the call, or lies outside of the record. -/
theorem wordAt?_toBytes (call : Call) {offset : UInt32} {i : Nat}
    (hoffset : offset.toNat = wordSize * i) :
    wordAt? call.toBytes offset = call.words[i]? := by
  rw [toBytes_eq_words, wordAt?_wordBytes hoffset]

theorem getElem?_flatMap_halves (values : List UInt64) (i : Nat) :
    (values.flatMap halves)[2 * i]? = values[i]?.map (·.toUInt32) ∧
      (values.flatMap halves)[2 * i + 1]? =
        values[i]?.map fun value => (value >>> (32 : UInt64)).toUInt32 := by
  induction values generalizing i with
  | nil => exact ⟨rfl, rfl⟩
  | cons value values ih =>
    cases i with
    | zero => exact ⟨rfl, rfl⟩
    | succ i => exact ih i

/-- Argument `i` takes up words `2 * i + 4` and `2 * i + 5`. -/
theorem getElem?_words_arg (call : Call) {i : Nat} (hi : i < 6) :
    call.words[2 * i + 4]? = some call.args[i].toUInt32 ∧
      call.words[2 * i + 5]? = some (call.args[i] >>> 32).toUInt32 := by
  have hargs := getElem?_flatMap_halves call.args.toList i
  rw [Vector.getElem?_toList, Vector.getElem?_eq_getElem hi] at hargs
  exact hargs

/-- The filter's three loads read the number, the architecture and the command. -/
theorem wordAt?_field (call : Call) (field : Field) :
    wordAt? call.toBytes field.offset = some (match field with
      | .syscallNumber => call.nr.toUInt32
      | .architecture => call.arch
      | .secondArgumentLow => Policy.command call) := by
  cases field with
  | syscallNumber => exact call.wordAt?_toBytes (i := 0) rfl
  | architecture => exact call.wordAt?_toBytes (i := 1) rfl
  | secondArgumentLow =>
    rw [call.wordAt?_toBytes (i := 6) rfl]
    exact (call.getElem?_words_arg (i := 1) (by decide)).1

end Call

end Seccomp

end TtyGuard
