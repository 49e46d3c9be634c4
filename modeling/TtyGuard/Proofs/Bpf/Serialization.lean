/-
# TtyGuard.Proofs.Bpf.Serialization — lists of records and byte lists of whole records

Records of any content are laid out without a gap, so a list of records and its bytes determine each
other: `deserialize_eq_ok_iff` reads dividing bytes into records as laying records out, backwards.
The length alone decides whether bytes can be divided (`exists_deserialize_iff`), and it is all that
is reported of those that cannot (`deserialize_eq_error_iff`).

Whole records in front do not change how the bytes behind them are divided
(`deserialize_append_eq_ok_iff`), so both directions respect concatenation; `serialize_isomorphism`
puts this together.
-/
import TtyGuard.Bpf.Record

namespace TtyGuard.Bpf.Record

variable {bytes more : List UInt8} {records : List Record}

/-! ## Which bytes are records -/

/-- Bytes are divided into records exactly if they are the bytes of these records. -/
theorem deserialize_eq_ok_iff : deserialize bytes = .ok records ↔ serialize records = bytes := by
  constructor
  · intro h
    exact serialize_of_deserialize h
  · rintro rfl
    exact deserialize_serialize records

/-- No two lists of records have the same bytes. -/
theorem serialize_injective : Function.Injective serialize := by
  intro records others h
  have hothers : deserialize (serialize records) = .ok others := deserialize_eq_ok_iff.mpr h.symm
  rw [deserialize_serialize] at hothers
  exact Except.ok.inj hothers

/-- Bytes that do not divide are refused with their number. -/
theorem deserialize_eq_error_iff {e : DecodeError} :
    deserialize bytes = .error e ↔
      bytes.length % byteSize ≠ 0 ∧ e = .truncatedRecord bytes.length := by
  rw [deserialize]
  split
  · next hwhole => simp [hwhole]
  · next hpartial => simp [hpartial, eq_comm]

theorem exists_deserialize_iff :
    (∃ records, deserialize bytes = .ok records) ↔ bytes.length % byteSize = 0 := by
  constructor
  · rintro ⟨records, h⟩
    rw [← deserialize_eq_ok_iff.mp h, length_serialize]
    exact Nat.mul_mod_right byteSize records.length
  · intro h
    exact ⟨wholeRecords bytes, deserialize_eq_ok_iff.mpr (serialize_wholeRecords bytes h)⟩

theorem exists_deserialize_error_iff :
    (∃ e, deserialize bytes = .error e) ↔ bytes.length % byteSize ≠ 0 := by
  constructor
  · rintro ⟨e, h⟩
    exact (deserialize_eq_error_iff.mp h).1
  · intro h
    exact ⟨_, deserialize_eq_error_iff.mpr ⟨h, rfl⟩⟩

/-! ## Bytes behind whole records -/

/-- Whole records in front leave the length as far from a multiple of the record's as it was. -/
theorem length_append_mod (h : bytes.length % byteSize = 0) (more : List UInt8) :
    (bytes ++ more).length % byteSize = more.length % byteSize := by
  rw [List.length_append]
  unfold byteSize at h ⊢
  omega

/-- What stands behind whole records is divided as on its own. -/
theorem deserialize_append_eq_ok_iff {all : List Record} (h : deserialize bytes = .ok records) :
    deserialize (bytes ++ more) = .ok all ↔
      ∃ rest, deserialize more = .ok rest ∧ all = records ++ rest := by
  have hbytes : serialize records = bytes := deserialize_eq_ok_iff.mp h
  have hwhole : bytes.length % byteSize = 0 := exists_deserialize_iff.mp ⟨records, h⟩
  constructor
  · intro hall
    obtain ⟨rest, hrest⟩ : ∃ rest, deserialize more = .ok rest := by
      rw [exists_deserialize_iff, ← length_append_mod hwhole]
      exact exists_deserialize_iff.mp ⟨all, hall⟩
    refine ⟨rest, hrest, serialize_injective ?_⟩
    rw [serialize_append, hbytes, deserialize_eq_ok_iff.mp hrest, deserialize_eq_ok_iff.mp hall]
  · rintro ⟨rest, hrest, rfl⟩
    rw [deserialize_eq_ok_iff, serialize_append, hbytes, deserialize_eq_ok_iff.mp hrest]

theorem exists_deserialize_append_error_iff (h : bytes.length % byteSize = 0) :
    (∃ e, deserialize (bytes ++ more) = .error e) ↔ ∃ e, deserialize more = .error e := by
  rw [exists_deserialize_error_iff, exists_deserialize_error_iff, length_append_mod h]

/-! ## Both directions -/

/-- **Records and bytes are in bijection**, whatever the records hold.  Records come back from their
bytes, of which each takes eight.  Bytes are records exactly if their number is a multiple of eight;
they are then the bytes of these records, and are otherwise refused with their number.  Both
directions respect concatenation, also where the second part is refused. -/
theorem serialize_isomorphism :
    (∀ records : List Record, deserialize (serialize records) = .ok records ∧
      (serialize records).length = 8 * records.length) ∧
    (∀ bytes : List UInt8,
      ((∃ records, deserialize bytes = .ok records) ↔ bytes.length % 8 = 0) ∧
      (∀ records, deserialize bytes = .ok records → serialize records = bytes) ∧
      ∀ e, deserialize bytes = .error e ↔
        bytes.length % 8 ≠ 0 ∧ e = .truncatedRecord bytes.length) ∧
    (∀ records more : List Record,
      serialize (records ++ more) = serialize records ++ serialize more) ∧
    ∀ bytes more : List UInt8, bytes.length % 8 = 0 →
      ∃ records, deserialize bytes = .ok records ∧
        (∀ all, deserialize (bytes ++ more) = .ok all ↔
          ∃ rest, deserialize more = .ok rest ∧ all = records ++ rest) ∧
        ((∃ e, deserialize (bytes ++ more) = .error e) ↔ ∃ e, deserialize more = .error e) := by
  refine ⟨fun records => ⟨deserialize_serialize records, length_serialize records⟩, fun bytes => ?_,
    serialize_append, fun bytes more hwhole => ?_⟩
  · exact ⟨exists_deserialize_iff, fun records h => serialize_of_deserialize h,
      fun e => deserialize_eq_error_iff⟩
  · obtain ⟨records, h⟩ : ∃ records, deserialize bytes = .ok records :=
      exists_deserialize_iff.mpr hwhole
    exact ⟨records, h, fun all => deserialize_append_eq_ok_iff h,
      exists_deserialize_append_error_iff hwhole⟩

/-- A record that no instruction has, in front of a return: both are read.  With three bytes behind
it instead, it is refused together with them. -/
theorem serialize_isomorphism_foreign_record :
    let bytes : List UInt8 := [0x28, 0x01, 0x02, 0x03, 0xff, 0xff, 0xff, 0xff]
    let more : List UInt8 := [0x06, 0, 0, 0, 0, 0, 0xff, 0x7f]
    bytes.length % 8 = 0 ∧
      deserialize (bytes ++ more) = .ok [⟨0x0128, 2, 3, 0xffffffff⟩, ⟨0x06, 0, 0, 0x7fff0000⟩] ∧
      ∃ e, deserialize (bytes ++ [1, 2, 3]) = .error e := by
  intro bytes more
  have hwhole : bytes.length % 8 = 0 := by decide
  have hbytes : deserialize bytes = .ok [⟨0x0128, 2, 3, 0xffffffff⟩] :=
    deserialize_eq_ok_iff.mpr (by decide)
  have hmore : deserialize more = .ok [⟨0x06, 0, 0, 0x7fff0000⟩] :=
    deserialize_eq_ok_iff.mpr (by decide)
  have hpartial : deserialize [1, 2, 3] = .error (.truncatedRecord 3) :=
    deserialize_eq_error_iff.mpr (by decide)
  obtain ⟨records, hrecords, happend, -⟩ := serialize_isomorphism.2.2.2 bytes more hwhole
  obtain ⟨-, -, -, hrefused⟩ := serialize_isomorphism.2.2.2 bytes [1, 2, 3] hwhole
  rw [hbytes] at hrecords
  cases hrecords
  exact ⟨hwhole, (happend _).mpr ⟨_, hmore, rfl⟩, hrefused.mpr ⟨_, hpartial⟩⟩

end TtyGuard.Bpf.Record
