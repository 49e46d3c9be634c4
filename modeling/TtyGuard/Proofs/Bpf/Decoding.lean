/-
# TtyGuard.Proofs.Bpf.Decoding — which records are instructions, and which one is reported

A record is judged on its own: `Malformed` says, without the table of instructions that the reader
searches, what no instruction has.  `ofRecord_of_malformed` and `exists_ofRecord` say that the reader
refuses exactly those.  Over a list, the reader stops at the first of them
(`ofRecordsFrom_of_malformed`) and reads a list that has none (`exists_ofRecordsFrom`); nothing of a
record it accepts is lost (`map_toRecord_of_ofRecordsFrom`).
-/
import TtyGuard.Bpf.Instruction

namespace TtyGuard.Bpf

/-! ## The records of a byte list, by their place -/

namespace Record

/-- The record in the eight bytes from byte `8 * i` on, if they are all there. -/
def at? (bytes : List UInt8) (i : Nat) : Option Record :=
  match bytes.drop (byteSize * i) with
  | c0 :: c1 :: jt :: jf :: k0 :: k1 :: k2 :: k3 :: _ =>
    some { code := .ofNat (leValue [c0, c1]), jt, jf, k := .ofNat (leValue [k0, k1, k2, k3]) }
  | _ => none

theorem getElem?_wholeRecords (bytes : List UInt8) (i : Nat) :
    (wholeRecords bytes)[i]? = at? bytes i := by
  fun_induction wholeRecords bytes generalizing i with
  | case1 c0 c1 jt jf k0 k1 k2 k3 rest ih =>
    cases i with
    | zero => rfl
    | succ i =>
      rw [List.getElem?_cons_succ, ih, at?, at?]
      have hplace : byteSize * (i + 1) = byteSize * i + 8 := rfl
      rw [hplace]
      rfl
  | case2 bytes hshort =>
    -- A shorter list has no record at any place, for behind a place there is only less.
    rw [List.getElem?_nil, at?]
    split
    · next c0 c1 jt jf k0 k1 k2 k3 rest hdrop =>
      exfalso
      have hlength : 8 ≤ (bytes.drop (byteSize * i)).length := by
        rw [hdrop]
        simp only [List.length_cons]
        omega
      rw [List.length_drop] at hlength
      match bytes, hshort, hlength with
      | c0 :: c1 :: jt :: jf :: k0 :: k1 :: k2 :: k3 :: rest, hshort, _ =>
        exact hshort c0 c1 jt jf k0 k1 k2 k3 rest rfl
      | [], _, hlength | [_], _, hlength | [_, _], _, hlength | [_, _, _], _, hlength
      | [_, _, _, _], _, hlength | [_, _, _, _, _], _, hlength | [_, _, _, _, _, _], _, hlength
      | [_, _, _, _, _, _, _], _, hlength =>
        simp only [List.length_cons, List.length_nil] at hlength
        omega
    · rfl

/-! ## Malformed records -/

/-- The codes that belong to instructions: a load, the two jumps and a return. -/
def knownCodes : List UInt16 := [0x20, 0x15, 0x45, 0x06]

/-- A record of no instruction: its code is foreign, or it branches although it is a load or a
return. -/
def Malformed (r : Record) : Prop :=
  r.code ∉ knownCodes ∨ (r.code = 0x20 ∨ r.code = 0x06) ∧ (r.jt, r.jf) ≠ (0, 0)

instance : DecidablePred Malformed := fun _ => inferInstanceAs (Decidable (_ ∨ _))

/-- What is said of a malformed record at position `index`. -/
def complaint (index : Nat) (r : Record) : DecodeError :=
  if r.code ∈ knownCodes then .unexpectedJumpOffsets index r.jt r.jf
  else .unknownOpcode index r.code

end Record

namespace Instruction

variable {index : Nat} {r : Record} {records : List Record} {code : List Instruction}

theorem mem_knownCodes_iff : r.code ∈ Record.knownCodes ↔ ∃ ix, ofCode? r = some ix := by
  simp only [ofCode?_eq_some_iff, Record.knownCodes, List.mem_cons, List.not_mem_nil, or_false]
  constructor
  · rintro (h | h | h | h)
    · exact ⟨_, Or.inl ⟨h, rfl⟩⟩
    · exact ⟨_, Or.inr (Or.inl ⟨h, rfl⟩)⟩
    · exact ⟨_, Or.inr (Or.inr (Or.inl ⟨h, rfl⟩))⟩
    · exact ⟨_, Or.inr (Or.inr (Or.inr ⟨h, rfl⟩))⟩
  · rintro ⟨ix, ⟨h, -⟩ | ⟨h, -⟩ | ⟨h, -⟩ | ⟨h, -⟩⟩
    · exact Or.inl h
    · exact Or.inr (Or.inl h)
    · exact Or.inr (Or.inr (Or.inl h))
    · exact Or.inr (Or.inr (Or.inr h))

/-- The instruction that a known code names has the record's branch offsets, unless the record is a
load or a return with offsets. -/
theorem jumpOffsets_of_ofCode? {ix : Instruction} (h : ofCode? r = some ix) :
    ix.jumpOffsets = (r.jt, r.jf) ↔ ¬ r.Malformed := by
  have hknown : r.code ∈ Record.knownCodes := mem_knownCodes_iff.mpr ⟨ix, h⟩
  have hmalformed : r.Malformed ↔ (r.code = 0x20 ∨ r.code = 0x06) ∧ (r.jt, r.jf) ≠ (0, 0) := by
    simp only [Record.Malformed, hknown, not_true_eq_false, false_or]
  rw [hmalformed]
  rcases (ofCode?_eq_some_iff r ix).mp h with ⟨hcode, rfl⟩ | ⟨hcode, rfl⟩ | ⟨hcode, rfl⟩ |
    ⟨hcode, rfl⟩
  · simp [jumpOffsets, hcode, eq_comm]
  · simp [jumpOffsets, hcode]
  · simp [jumpOffsets, hcode]
  · simp [jumpOffsets, hcode, eq_comm]

/-! ## One record -/

theorem ofRecord_of_malformed (h : r.Malformed) :
    ofRecord index r = .error (r.complaint index) := by
  rw [ofRecord, Record.complaint]
  cases hfound : ofCode? r with
  | none =>
    have hforeign : r.code ∉ Record.knownCodes := fun hknown => by
      obtain ⟨ix, hix⟩ := mem_knownCodes_iff.mp hknown
      rw [hfound] at hix
      cases hix
    rw [if_neg hforeign]
  | some ix =>
    have hoffsets : ix.jumpOffsets ≠ (r.jt, r.jf) := fun hsame =>
      (jumpOffsets_of_ofCode? hfound).mp hsame h
    rw [if_pos (mem_knownCodes_iff.mpr ⟨ix, hfound⟩)]
    exact if_neg hoffsets

theorem exists_ofRecord (index : Nat) (h : ¬ r.Malformed) : ∃ ix, ofRecord index r = .ok ix := by
  have hknown : r.code ∈ Record.knownCodes := Decidable.not_not.mp fun hforeign => h (Or.inl hforeign)
  obtain ⟨ix, hfound⟩ := mem_knownCodes_iff.mp hknown
  refine ⟨ix, ?_⟩
  rw [ofRecord, hfound]
  exact if_pos ((jumpOffsets_of_ofCode? hfound).mpr h)

/-! ## The records of a program -/

theorem ofRecordsFrom_cons_error {rest : List Record} {e : DecodeError}
    (h : ofRecord index r = .error e) : ofRecordsFrom index (r :: rest) = .error e := by
  rw [ofRecordsFrom, h]
  rfl

theorem ofRecordsFrom_cons_ok {rest : List Record} {ix : Instruction}
    (h : ofRecord index r = .ok ix) :
    ofRecordsFrom index (r :: rest) = (ofRecordsFrom (index + 1) rest).map (ix :: ·) := by
  rw [ofRecordsFrom, h]
  rfl

/-- **The first malformed record is reported**, with its own position. -/
theorem ofRecordsFrom_of_malformed {i : Nat} (hr : records[i]? = some r) (hmalformed : r.Malformed)
    (hbefore : ∀ j s, j < i → records[j]? = some s → ¬ s.Malformed) :
    ofRecordsFrom index records = .error (r.complaint (index + i)) := by
  induction records generalizing index i with
  | nil =>
    rw [List.getElem?_nil] at hr
    cases hr
  | cons first rest ih =>
    cases i with
    | zero =>
      rw [List.getElem?_cons_zero] at hr
      cases hr
      exact ofRecordsFrom_cons_error (ofRecord_of_malformed hmalformed)
    | succ i =>
      have hfirst : ¬ first.Malformed := hbefore 0 first (Nat.succ_pos i) rfl
      obtain ⟨ix, hix⟩ := exists_ofRecord index hfirst
      have hrest : ∀ j s, j < i → rest[j]? = some s → ¬ s.Malformed := fun j s hj hs =>
        hbefore (j + 1) s (Nat.succ_lt_succ hj) hs
      rw [ofRecordsFrom_cons_ok hix, ih hr hrest, Nat.add_right_comm, Nat.add_assoc]
      rfl

/-- Records that are read are the records of the instructions they are read as. -/
theorem map_toRecord_of_ofRecordsFrom (h : ofRecordsFrom index records = .ok code) :
    code.map toRecord = records := by
  induction records generalizing index code with
  | nil =>
    cases h
    rfl
  | cons first rest ih =>
    cases hfirst : ofRecord index first with
    | error e =>
      rw [ofRecordsFrom_cons_error hfirst] at h
      cases h
    | ok ix =>
      rw [ofRecordsFrom_cons_ok hfirst] at h
      cases hrest : ofRecordsFrom (index + 1) rest with
      | error e =>
        rw [hrest] at h
        cases h
      | ok ixs =>
        rw [hrest] at h
        cases h
        rw [List.map_cons, toRecord_of_ofRecord hfirst, ih hrest]

/-- Records of which none is malformed are read. -/
theorem exists_ofRecordsFrom (index : Nat) (h : ∀ r ∈ records, ¬ r.Malformed) :
    ∃ code, ofRecordsFrom index records = .ok code := by
  induction records generalizing index with
  | nil => exact ⟨[], rfl⟩
  | cons first rest ih =>
    obtain ⟨ix, hix⟩ := exists_ofRecord index (h first List.mem_cons_self)
    obtain ⟨code, hcode⟩ := ih (index + 1) fun r hr => h r (List.mem_cons_of_mem first hr)
    refine ⟨ix :: code, ?_⟩
    rw [ofRecordsFrom_cons_ok hix, hcode]
    rfl

end Instruction

end TtyGuard.Bpf
