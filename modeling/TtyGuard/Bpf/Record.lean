/-
# TtyGuard.Bpf.Record — the raw record of one instruction

The kernel takes a classic BPF program as records of eight bytes: a 16-bit code, two 8-bit jump
offsets and a 32-bit operand, little-endian and back to back.  A record carries any code, also one
that no instruction of this library has.  Main statements: `deserialize_serialize` and
`serialize_of_deserialize`, which make records and byte lists of whole records the same thing.
-/
import TtyGuard.Bytes

namespace TtyGuard.Bpf

/-- One raw instruction: its code, the offsets of its two branches and its operand. -/
structure Record where
  code : UInt16
  jt : UInt8
  jf : UInt8
  k : UInt32
deriving DecidableEq, Repr

/-- Why a list of bytes or records is not a list of instructions. -/
inductive DecodeError where
  /-- The bytes, `length` of them, do not divide into whole records. -/
  | truncatedRecord (length : Nat)
  /-- The record at `index` has a code that belongs to no instruction. -/
  | unknownOpcode (index : Nat) (code : UInt16)
  /-- The record at `index` has branch offsets although it is not a jump. -/
  | unexpectedJumpOffsets (index : Nat) (jt jf : UInt8)
deriving DecidableEq, Repr

/-- The text shown for a decoding error. -/
def DecodeError.message : DecodeError → String
  | .truncatedRecord length =>
    s!"program is {length} bytes long, which is not a multiple of the 8 byte record size"
  | .unknownOpcode index code =>
    s!"instruction {index} has an opcode {hexText 4 code.toNat} that is not emitted by this crate"
  | .unexpectedJumpOffsets index jt jf =>
    s!"instruction {index} is not a jump, but has non-zero jump offsets ({jt}, {jf})"

namespace Record

/-- Bytes in one record. -/
def byteSize : Nat := 8

/-- The record in the order the kernel reads it: code, both offsets, operand. -/
def toBytes (r : Record) : List UInt8 :=
  leBytes 2 r.code.toNat ++ [r.jt, r.jf] ++ leBytes 4 r.k.toNat

/-- The records laid out back to back, without header or padding. -/
def serialize (records : List Record) : List UInt8 :=
  records.flatMap toBytes

/-- The whole records at the front of a byte list; fewer than eight bytes at its end are dropped. -/
def wholeRecords : List UInt8 → List Record
  | c0 :: c1 :: jt :: jf :: k0 :: k1 :: k2 :: k3 :: rest =>
    { code := .ofNat (leValue [c0, c1]), jt, jf, k := .ofNat (leValue [k0, k1, k2, k3]) }
      :: wholeRecords rest
  | _ => []

/-- Divides bytes into records; a length that is not a multiple of eight is refused. -/
def deserialize (bytes : List UInt8) : Except DecodeError (List Record) :=
  if bytes.length % byteSize = 0 then .ok (wholeRecords bytes)
  else .error (.truncatedRecord bytes.length)

/-! ## Records and their bytes -/

@[simp] theorem length_toBytes (r : Record) : r.toBytes.length = byteSize := by
  simp [toBytes, byteSize]

@[simp] theorem length_serialize (records : List Record) :
    (serialize records).length = byteSize * records.length := by
  induction records with
  | nil => rfl
  | cons r rest ih => simp [serialize, byteSize] at ih ⊢; omega

@[simp] theorem serialize_append (rs ss : List Record) :
    serialize (rs ++ ss) = serialize rs ++ serialize ss := by
  simp [serialize]

theorem wholeRecords_toBytes_append (r : Record) (rest : List UInt8) :
    wholeRecords (r.toBytes ++ rest) = r :: wholeRecords rest := by
  have hcode : UInt16.ofNat (leValue (leBytes 2 r.code.toNat)) = r.code := by
    simp [Nat.mod_eq_of_lt r.code.toNat_lt]
  have hk : UInt32.ofNat (leValue (leBytes 4 r.k.toNat)) = r.k := by
    simp [Nat.mod_eq_of_lt r.k.toNat_lt]
  simp only [leBytes] at hcode hk
  simp only [toBytes, leBytes, List.cons_append, List.nil_append, wholeRecords, hcode, hk]

@[simp] theorem wholeRecords_serialize_append (records : List Record) (rest : List UInt8) :
    wholeRecords (serialize records ++ rest) = records ++ wholeRecords rest := by
  induction records with
  | nil => rfl
  | cons r records ih =>
    rw [serialize, List.flatMap_cons, List.append_assoc, wholeRecords_toBytes_append, ← serialize,
      ih, List.cons_append]

/-- Any records, meaningful or not, come back from their bytes. -/
@[simp] theorem deserialize_serialize (records : List Record) :
    deserialize (serialize records) = .ok records := by
  have h := wholeRecords_serialize_append records []
  simp only [List.append_nil, wholeRecords] at h
  simp [deserialize, h]

theorem serialize_wholeRecords (bytes : List UInt8) (h : bytes.length % byteSize = 0) :
    serialize (wholeRecords bytes) = bytes := by
  fun_induction wholeRecords bytes with
  | case1 c0 c1 jt jf k0 k1 k2 k3 rest ih =>
    -- Both numbers fit their fields, so laying them out gives the eight bytes back.
    have hcode : leBytes 2 (leValue [c0, c1]) = [c0, c1] := leBytes_leValue [c0, c1]
    have hk : leBytes 4 (leValue [k0, k1, k2, k3]) = [k0, k1, k2, k3] :=
      leBytes_leValue [k0, k1, k2, k3]
    have hcodeLt : leValue [c0, c1] < 2 ^ 16 := by simpa using leValue_lt [c0, c1]
    have hkLt : leValue [k0, k1, k2, k3] < 2 ^ 32 := by
      simpa using leValue_lt [k0, k1, k2, k3]
    have hrest : rest.length % byteSize = 0 := by
      simp only [List.length_cons, byteSize] at h ⊢
      omega
    have := ih hrest
    simp only [serialize] at this
    simp only [serialize, List.flatMap_cons, this, toBytes, UInt16.toNat_ofNat', UInt32.toNat_ofNat']
    rw [Nat.mod_eq_of_lt hcodeLt, Nat.mod_eq_of_lt hkLt, hcode, hk]
    rfl
  | case2 bytes hshort =>
    -- Fewer than eight bytes, and a length that is a multiple of eight: there are none.
    match bytes, hshort, h with
    | [], _, _ => rfl
    | [_], _, h => simp [byteSize] at h
    | [_, _], _, h => simp [byteSize] at h
    | [_, _, _], _, h => simp [byteSize] at h
    | [_, _, _, _], _, h => simp [byteSize] at h
    | [_, _, _, _, _], _, h => simp [byteSize] at h
    | [_, _, _, _, _, _], _, h => simp [byteSize] at h
    | [_, _, _, _, _, _, _], _, h => simp [byteSize] at h
    | c0 :: c1 :: jt :: jf :: k0 :: k1 :: k2 :: k3 :: rest, hshort, _ =>
      exact absurd rfl (hshort c0 c1 jt jf k0 k1 k2 k3 rest)

/-- Bytes that divide into records are the bytes of those records. -/
theorem serialize_of_deserialize {bytes : List UInt8} {records : List Record}
    (h : deserialize bytes = .ok records) : serialize records = bytes := by
  unfold deserialize at h
  split at h
  · next hlen =>
    injection h with h
    exact h ▸ serialize_wholeRecords bytes hlen
  · exact absurd h (by simp)

end Record

end TtyGuard.Bpf
