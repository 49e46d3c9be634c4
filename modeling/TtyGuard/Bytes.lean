/-
# TtyGuard.Bytes — little-endian words as byte lists, and their hexadecimal text

A word is stored least significant byte first.  `leBytes` lays a number out in a fixed number of
bytes and `leValue` reads a list of bytes back; `leValue_leBytes` and `leBytes_leValue` say that the
two undo each other, so a fixed width loses exactly what does not fit in it.
-/

namespace TtyGuard

/-! ## Bytes of a number -/

/-- The `width` low bytes of `n`, least significant first. -/
def leBytes : Nat → Nat → List UInt8
  | 0, _ => []
  | width + 1, n => UInt8.ofNat n :: leBytes width (n / 256)

/-- The number that `bytes`, least significant first, stand for. -/
def leValue : List UInt8 → Nat
  | [] => 0
  | b :: rest => b.toNat + 256 * leValue rest

@[simp] theorem length_leBytes (width n : Nat) : (leBytes width n).length = width := by
  induction width generalizing n with
  | zero => rfl
  | succ width ih => simp [leBytes, ih]

theorem leValue_lt (bytes : List UInt8) : leValue bytes < Nat.pow 256 bytes.length := by
  induction bytes with
  | nil => simp [leValue]
  | cons b rest ih =>
    have hb : b.toNat < 256 := b.toNat_lt
    simp only [leValue, List.length_cons, Nat.pow_eq, Nat.pow_succ] at ih ⊢
    omega

/-- Laying a number out and reading it back keeps what fits in the width. -/
@[simp] theorem leValue_leBytes (width n : Nat) :
    leValue (leBytes width n) = n % Nat.pow 256 width := by
  induction width generalizing n with
  | zero => simp [leBytes, leValue, Nat.mod_one]
  | succ width ih =>
    rw [leBytes, leValue, ih, Nat.pow_eq, Nat.pow_eq, Nat.pow_succ, Nat.mul_comm _ 256,
      Nat.mod_mul]
    simp

/-- Reading bytes and laying the number out in as many bytes gives the bytes again. -/
@[simp] theorem leBytes_leValue (bytes : List UInt8) :
    leBytes bytes.length (leValue bytes) = bytes := by
  induction bytes with
  | nil => rfl
  | cons b rest ih =>
    have hb : b.toNat < 256 := b.toNat_lt
    have hdiv : (b.toNat + 256 * leValue rest) / 256 = leValue rest := by omega
    have hmod : UInt8.ofNat (b.toNat + 256 * leValue rest) = b := by
      apply UInt8.toNat_inj.mp
      rw [UInt8.toNat_ofNat']
      omega
    simp [leBytes, leValue, hdiv, hmod, ih]

/-! ## Hexadecimal text -/

/-- `0x` and the hexadecimal digits of `n`, padded with zeros to at least `digits` of them. -/
def hexText (digits n : Nat) : String :=
  let text := Nat.toDigits 16 n
  "0x" ++ String.ofList (List.replicate (digits - text.length) '0' ++ text)

end TtyGuard
