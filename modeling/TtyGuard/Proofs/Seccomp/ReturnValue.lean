/-
# TtyGuard.Proofs.Seccomp.ReturnValue — every action has one return value of its own

Several values select the same action, since a value that kills or allows may carry any data in its
low half.  The encoder picks one of them, and this module says which: the data of an error number is
kept, so its value is the only one (`encode_of_decode_errno`), and other data is cleared
(`encode_of_decode`).  Both rest on `decode_eq_ok_iff`, which reads the decoder as a condition on the
two halves of a value, and on `selected_or_data`, which puts the halves together again.
-/
import TtyGuard.Proofs.Seccomp.Selection

namespace TtyGuard.Seccomp.Action

variable {a : Action} {value : UInt32} {code : UInt16}

/-! ## The two halves of a value -/

theorem and_or_distrib (a b c : UInt32) : a &&& (b ||| c) = (a &&& b) ||| (a &&& c) :=
  UInt32.toBitVec_inj.mp BitVec.and_or_distrib_left

/-- The two masks take a value apart without a loss. -/
theorem selected_or_data (value : UInt32) :
    (value &&& selectorMask) ||| (value &&& dataMask) = value := by
  have hmasks : selectorMask ||| dataMask = -1 := by decide
  rw [← and_or_distrib, hmasks, UInt32.and_neg_one]

/-- The data of a value fits into an error number. -/
theorem toUInt32_data (value : UInt32) :
    (value &&& dataMask).toUInt16.toUInt32 = value &&& dataMask := by
  have hdata : (value &&& dataMask).toNat = value.toNat % 65536 := by
    rw [UInt32.toNat_and]
    exact Nat.and_two_pow_sub_one_eq_mod value.toNat 16
  apply UInt32.toNat_inj.mp
  rw [UInt16.toNat_toUInt32, UInt32.toNat_toUInt16, hdata]
  exact Nat.mod_mod value.toNat 65536

/-- An error number is all data. -/
theorem toUInt32_and_dataMask (code : UInt16) : code.toUInt32 &&& dataMask = code.toUInt32 := by
  have hcode : code.toNat < 65536 := code.toNat_lt
  apply UInt32.toNat_inj.mp
  rw [UInt32.toNat_and, UInt16.toNat_toUInt32]
  exact Nat.and_two_pow_sub_one_of_lt_two_pow (n := 16) hcode

/-- Clearing the data leaves the high half as it was. -/
theorem and_selectorMask_shiftRight (value : UInt32) :
    (value &&& selectorMask) >>> 16 = value >>> 16 := by
  have hhigh : (value >>> 16).toNat < 65536 := toNat_highHalf_lt value
  apply UInt32.toNat_inj.mp
  rw [and_selectorMask, UInt32.toNat_shiftRight, toNat_moveUp hhigh, Nat.shiftRight_eq_div_pow]
  show (value >>> 16).toNat * 65536 / 65536 = (value >>> 16).toNat
  omega

/-! ## The values that select an action -/

/-- A value selects the action that has its selector, and has the error number as its data. -/
theorem decode_eq_ok_iff :
    decode value = .ok a ↔
      value &&& selectorMask = a.selector ∧
        ∀ code, a = errno code → (value &&& dataMask).toUInt16 = code := by
  constructor
  · intro h
    simp only [decode] at h
    split at h
    · next hselected =>
      cases h
      exact ⟨hselected, by rintro _ ⟨⟩⟩
    split at h
    · next hselected =>
      cases h
      exact ⟨hselected, by rintro _ ⟨⟩⟩
    split at h
    · next hselected =>
      cases h
      refine ⟨hselected, ?_⟩
      rintro _ ⟨⟩
      rfl
    · cases h
  · -- The selectors differ, so the comparisons in front of the right one fail.
    have hallow : allow.selector ≠ killProcess.selector := by decide
    have herrno : (errno 0).selector ≠ killProcess.selector := by decide
    have herrno' : (errno 0).selector ≠ allow.selector := by decide
    rintro ⟨hselected, hdata⟩
    cases a with
    | killProcess => simp only [decode, hselected, if_true]
    | allow => simp only [decode, hselected, hallow, if_true, if_false]
    | errno code =>
      have hselected : value &&& selectorMask = (errno 0).selector := hselected
      simp only [decode, hselected, herrno, herrno', if_true, if_false, hdata code rfl]

/-- An action without an error number is selected by the high half alone. -/
theorem decode_eq_ok_iff_highHalf {high : UInt32} (hhigh : high.toNat < 65536)
    (hselector : a.selector = high <<< 16) (ha : ∀ code, a ≠ errno code) :
    decode value = .ok a ↔ value >>> 16 = high := by
  rw [decode_eq_ok_iff, hselector, and_selectorMask_eq_iff high hhigh]
  constructor
  · intro h
    exact h.1
  · intro h
    exact ⟨h, fun code hcode => absurd hcode (ha code)⟩

theorem exists_decode_iff :
    (∃ a, decode value = .ok a) ↔ value >>> 16 ∈ ([0x8000, 0x7fff, 0x0005] : List UInt32) := by
  cases hdecode : decode value with
  | ok a =>
    have hknown : value >>> 16 ∈ ([0x8000, 0x7fff, 0x0005] : List UInt32) := by
      apply Decidable.byContradiction
      intro hunknown
      rw [decode_eq_error_iff.mpr ⟨rfl, hunknown⟩] at hdecode
      cases hdecode
    exact ⟨fun _ => hknown, fun _ => ⟨a, rfl⟩⟩
  | error e =>
    have hunknown := (decode_eq_error_iff.mp hdecode).2
    constructor
    · rintro ⟨a, ⟨⟩⟩
    · intro hknown
      exact absurd hknown hunknown

/-! ## The value that an action is encoded as -/

theorem encode_errno (code : UInt16) : (errno code).encode = 0x00050000 ||| code.toUInt32 := by
  show 0x00050000 ||| (code.toUInt32 &&& dataMask) = 0x00050000 ||| code.toUInt32
  rw [toUInt32_and_dataMask]

/-- The value that selects an error number is the one that it is encoded as. -/
theorem encode_of_decode_errno (h : decode value = .ok (errno code)) :
    (errno code).encode = value := by
  obtain ⟨hselected, hdata⟩ := decode_eq_ok_iff.mp h
  calc (errno code).encode
      = (errno code).selector ||| (code.toUInt32 &&& dataMask) := rfl
    _ = (value &&& selectorMask) ||| (value &&& dataMask) := by
        rw [← hselected, toUInt32_and_dataMask, ← hdata code rfl, toUInt32_data]
    _ = value := selected_or_data value

/-- Of the values that select another action, the one without data is encoded. -/
theorem encode_of_decode (h : decode value = .ok a) (ha : ∀ code, a ≠ errno code) :
    a.encode = value &&& selectorMask := by
  obtain ⟨hselected, -⟩ := decode_eq_ok_iff.mp h
  rw [hselected]
  cases a with
  | killProcess => rfl
  | allow => rfl
  | errno code => exact absurd rfl (ha code)

theorem encode_shiftRight_of_decode (h : decode value = .ok a) :
    a.encode >>> 16 = value >>> 16 := by
  by_cases ha : ∃ code, a = errno code
  · obtain ⟨code, rfl⟩ := ha
    rw [encode_of_decode_errno h]
  · rw [encode_of_decode h (not_exists.mp ha), and_selectorMask_shiftRight]

/-- **Actions and return values correspond.**  Every action comes back from its value.  Three high
halves name an action, two of them whatever stands below, and every other value is refused as it
is.  A value that selects an action has the high half of the value that the action is encoded as; it
is this value if the action carries an error number, and otherwise this value with data. -/
theorem encode_canonical :
    (∀ a : Action, decode a.encode = .ok a) ∧
    (∀ value : UInt32,
      ((∃ a, decode value = .ok a) ↔ value >>> 16 ∈ ([0x8000, 0x7fff, 0x0005] : List UInt32)) ∧
      (decode value = .ok killProcess ↔ value >>> 16 = 0x8000) ∧
      (decode value = .ok allow ↔ value >>> 16 = 0x7fff) ∧
      (∀ code, decode value = .ok (errno code) ↔ value = 0x00050000 ||| code.toUInt32) ∧
      ∀ e, decode value = .error e ↔
        e = ⟨value⟩ ∧ value >>> 16 ∉ ([0x8000, 0x7fff, 0x0005] : List UInt32)) ∧
    ∀ (value : UInt32) (a : Action), decode value = .ok a →
      a.encode >>> 16 = value >>> 16 ∧
      (∀ code, a = errno code → a.encode = value) ∧
      ((∀ code, a ≠ errno code) → a.encode = value &&& 0xffff0000) ∧
      decode a.encode = .ok a := by
  refine ⟨decode_encode, fun value => ⟨exists_decode_iff, ?_, ?_, ?_, fun e => decode_eq_error_iff⟩,
    fun value a h => ⟨encode_shiftRight_of_decode h, ?_, encode_of_decode h, decode_encode a⟩⟩
  · exact decode_eq_ok_iff_highHalf (by decide) (by decide) (by rintro _ ⟨⟩)
  · exact decode_eq_ok_iff_highHalf (by decide) (by decide) (by rintro _ ⟨⟩)
  · intro code
    rw [← encode_errno]
    constructor
    · intro h
      exact (encode_of_decode_errno h).symm
    · rintro rfl
      exact decode_encode (errno code)
  · rintro code rfl
    exact encode_of_decode_errno h

/-- The data of a value that allows is dropped, also where it would be an error number; that of a
value that denies is kept to the last bit. -/
theorem encode_canonical_data_kept_or_dropped :
    (decode 0x7fff0005 = .ok allow ∧ allow.encode = 0x7fff0005 &&& 0xffff0000) ∧
      decode 0x0005ffff = .ok (errno 0xffff) ∧ (errno 0xffff).encode = 0x0005ffff := by
  have hallow : decode 0x7fff0005 = .ok allow := rfl
  have herrno : decode 0x0005ffff = .ok (errno 0xffff) := rfl
  obtain ⟨-, -, hdropped, -⟩ := encode_canonical.2.2 _ _ hallow
  obtain ⟨-, hkept, -⟩ := encode_canonical.2.2 _ _ herrno
  exact ⟨⟨hallow, hdropped (by rintro _ ⟨⟩)⟩, herrno, hkept _ rfl⟩

end TtyGuard.Seccomp.Action
