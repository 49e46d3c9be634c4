/-
# TtyGuard.Seccomp.Action — what a filter's return value does with a call

The high half of a return value selects the action and the low half carries its argument.  Only the
three actions that the terminal filter returns are known.  Encoding an action and decoding it again
gives the action; decoding ignores the low half where the kernel does.
-/
import TtyGuard.Bytes

namespace TtyGuard.Seccomp

/-- What happens to a system call. -/
inductive Action where
  /-- The process is killed and the call is not made. -/
  | killProcess
  /-- The call is not made and fails with this error number. -/
  | errno (code : UInt16)
  /-- The call is made. -/
  | allow
deriving DecidableEq, Repr

/-- A return value whose high half selects none of the known actions. -/
structure UnknownAction where
  value : UInt32
deriving DecidableEq, Repr

/-- The text shown for an unknown action. -/
def UnknownAction.message (e : UnknownAction) : String :=
  s!"The return value carried a `SECCOMP_RET_*` action this crate never emits: {hexText 8 e.value.toNat}"

namespace Action

/-- The answer to every denied call: the operation is not permitted. -/
def deny : Action := errno 1

/-- The bits of a return value that select the action. -/
def selectorMask : UInt32 := 0xffff0000

/-- The bits of a return value that carry the action's argument. -/
def dataMask : UInt32 := 0x0000ffff

/-- The return value's high half for the action. -/
def selector : Action → UInt32
  | killProcess => 0x80000000
  | errno _ => 0x00050000
  | allow => 0x7fff0000

/-- The return value of the action. -/
def encode (a : Action) : UInt32 :=
  match a with
  | errno code => a.selector ||| (code.toUInt32 &&& dataMask)
  | _ => a.selector

/-- The action that a return value selects. -/
def decode (value : UInt32) : Except UnknownAction Action :=
  let selected := value &&& selectorMask
  if selected = killProcess.selector then .ok killProcess
  else if selected = allow.selector then .ok allow
  else if selected = (errno 0).selector then .ok (errno (value &&& dataMask).toUInt16)
  else .error ⟨value⟩

/-- The action in words. -/
def describe : Action → String
  | killProcess => "KillProcess"
  | errno code => "Errno \x7b errno: " ++ toString code.toNat ++ " \x7d"
  | allow => "Allow"

/-! ## Actions come back from their return values -/

theorem or_and_distrib (a b c : UInt32) : (a ||| b) &&& c = (a &&& c) ||| (b &&& c) :=
  UInt32.toBitVec_inj.mp BitVec.and_or_distrib_right

theorem encode_errno_and_selectorMask (code : UInt16) :
    (errno code).encode &&& selectorMask = (errno 0).selector := by
  have hdata : dataMask &&& selectorMask = 0 := by decide
  have hselector : (errno code).selector &&& selectorMask = (errno 0).selector := by
    show (0x00050000 : UInt32) &&& selectorMask = 0x00050000
    decide
  rw [encode, or_and_distrib, UInt32.and_assoc, hdata, hselector, UInt32.and_zero]
  decide

theorem encode_errno_and_dataMask (code : UInt16) :
    ((errno code).encode &&& dataMask).toUInt16 = code := by
  have hselector : (errno code).selector &&& dataMask = 0 := by
    show (0x00050000 : UInt32) &&& dataMask = 0
    decide
  have hall : (65535 : UInt16) = -1 := by decide
  rw [encode, or_and_distrib, UInt32.and_assoc, hselector]
  simp [dataMask, hall]

/-- Decoding gives back the action that was encoded. -/
@[simp] theorem decode_encode (a : Action) : decode a.encode = .ok a := by
  cases a with
  | killProcess => rfl
  | allow => rfl
  | errno code =>
    have hkill : (errno 0).selector ≠ killProcess.selector := by decide
    have hallow : (errno 0).selector ≠ allow.selector := by decide
    simp only [decode, encode_errno_and_selectorMask, encode_errno_and_dataMask, hkill, hallow,
      if_true, if_false]

end Action

end TtyGuard.Seccomp
