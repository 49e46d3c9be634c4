/-
# TtyGuard.Proofs.Seccomp.Selection — which action a return value selects

A return value is masked and compared with the three known selectors.  `and_selectorMask_eq_iff`
says what the mask leaves, the high half of the value, and `decode_eq` reads the decoder by it:
three high halves name an action and every other value is refused as it is.
-/
import TtyGuard.Seccomp.Action

namespace TtyGuard.Seccomp.Action

variable {value : UInt32} {e : UnknownAction}

/-- The mask clears the low half. -/
theorem and_selectorMask (value : UInt32) : value &&& selectorMask = (value >>> 16) <<< 16 := by
  apply UInt32.toBitVec_inj.mp
  exact (BitVec.shiftLeft_ushiftRight (n := 16)).symm

theorem toNat_highHalf_lt (value : UInt32) : (value >>> 16).toNat < 65536 := by
  have hvalue : value.toNat < 4294967296 := value.toNat_lt
  have hhigh : (value >>> 16).toNat = value.toNat / 65536 := by
    rw [UInt32.toNat_shiftRight, Nat.shiftRight_eq_div_pow]
    rfl
  omega

/-- A half that is moved up loses nothing. -/
theorem toNat_moveUp {half : UInt32} (hhalf : half.toNat < 65536) :
    (half <<< 16).toNat = half.toNat * 65536 := by
  rw [UInt32.toNat_shiftLeft, Nat.shiftLeft_eq]
  show half.toNat * 65536 % 4294967296 = _
  omega

/-- A masked value is a selector exactly if its high half is that of the selector. -/
theorem and_selectorMask_eq_iff (high : UInt32) (hhigh : high.toNat < 65536) :
    value &&& selectorMask = high <<< 16 ↔ value >>> 16 = high := by
  rw [and_selectorMask, ← UInt32.toNat_inj, toNat_moveUp (toNat_highHalf_lt value),
    toNat_moveUp hhigh, ← UInt32.toNat_inj]
  omega

/-- The high half alone decides which action is selected. -/
theorem decode_eq (value : UInt32) :
    decode value =
      if value >>> 16 = 0x8000 then .ok killProcess
      else if value >>> 16 = 0x7fff then .ok allow
      else if value >>> 16 = 0x0005 then .ok (errno (value &&& dataMask).toUInt16)
      else .error ⟨value⟩ := by
  have hkill : killProcess.selector = (0x8000 : UInt32) <<< 16 := by decide
  have hallow : allow.selector = (0x7fff : UInt32) <<< 16 := by decide
  have herrno : (errno 0).selector = (0x0005 : UInt32) <<< 16 := by decide
  simp only [decode, hkill, hallow, herrno,
    and_selectorMask_eq_iff 0x8000 (by decide),
    and_selectorMask_eq_iff 0x7fff (by decide),
    and_selectorMask_eq_iff 0x0005 (by decide)]

/-- A value is refused, as it is, exactly if its high half is none of the three. -/
theorem decode_eq_error_iff :
    decode value = .error e ↔
      e = ⟨value⟩ ∧ value >>> 16 ∉ ([0x8000, 0x7fff, 0x0005] : List UInt32) := by
  rw [decode_eq]
  constructor
  · intro h
    split at h
    · cases h
    next hkill =>
    split at h
    · cases h
    next hallow =>
    split at h
    · cases h
    next herrno =>
    cases h
    simp [hkill, hallow, herrno]
  · rintro ⟨rfl, hunknown⟩
    simp only [List.mem_cons, List.not_mem_nil, or_false, not_or] at hunknown
    rw [if_neg hunknown.1, if_neg hunknown.2.1, if_neg hunknown.2.2]

end TtyGuard.Seccomp.Action
