/-
# TtyGuard.Proofs.Seccomp.Composition — programs put together are programs

The verifier counts positions from the beginning of the code and compares them with its whole
length.  `Sound` asks the same of each instruction by what stands behind it, so that it does not
matter what stands in front: `firstFault?_eq_none_iff_sound` says that the two agree.  Sound code
stays sound with more behind it (`Sound.mono`), and code is sound if its parts are
(`sound_append_iff`).

What programs and conditional statements are put together from is therefore `WellBuilt`, and only
its length can be wrong with it (`WellBuilt.judgedByLength`).  `ofCode_composes` goes through the
ways to put programs together.
-/
import TtyGuard.Proofs.Bpf.Limits
import TtyGuard.Proofs.Seccomp.Verification

namespace TtyGuard.Seccomp

open Bpf
open Bpf.Statement (endsInReturn termJumps toNat_ofNat_of_le ne_nil_of_endsInReturn)

variable {code more : List Instruction} {behind n : Nat}

/-! ## Checks by what stands behind -/

section

variable {length index : Nat}

/-- Instructions in front do not matter. -/
theorem instructionFault?_shift (ix : Instruction) :
    instructionFault? (index + length) index ix = none ↔ instructionFault? length 0 ix = none := by
  cases ix with
  | load offset => rw [instructionFault?_load_eq_none_iff, instructionFault?_load_eq_none_iff]
  | jump condition k jt jf =>
    rw [instructionFault?_jump_eq_none_iff, instructionFault?_jump_eq_none_iff]
    omega
  | ret k => exact Iff.rfl

/-- More instructions behind do no harm. -/
theorem instructionFault?_mono {longer : Nat} {ix : Instruction} (hle : length ≤ longer)
    (h : instructionFault? length index ix = none) : instructionFault? longer index ix = none := by
  cases ix with
  | load offset => exact h
  | jump condition k jt jf =>
    rw [instructionFault?_jump_eq_none_iff] at h ⊢
    omega
  | ret k => rfl

end

/-- The instructions have no fault if `behind` more stand behind the last one. -/
def Sound (behind : Nat) : List Instruction → Prop
  | [] => True
  | ix :: rest => instructionFault? (rest.length + behind + 1) 0 ix = none ∧ Sound behind rest

theorem firstFault?_eq_none_iff_sound (index : Nat) :
    firstFault? (index + (code.length + behind)) index code = none ↔ Sound behind code := by
  induction code generalizing index with
  | nil => simp [firstFault?, Sound]
  | cons ix rest ih =>
    -- Both parts of the search are told the same length, counted from where it stands.
    have hlength : index + ((ix :: rest).length + behind) = index + (rest.length + behind + 1) := by
      rw [List.length_cons]
      omega
    have hnext : index + 1 + (rest.length + behind) = index + (rest.length + behind + 1) := by omega
    have hfirst : instructionFault? (index + (rest.length + behind + 1)) index ix = none ↔
        instructionFault? (rest.length + behind + 1) 0 ix = none :=
      instructionFault?_shift ix
    have hrest := ih (index + 1)
    rw [hnext] at hrest
    rw [hlength, firstFault?_cons, Option.or_eq_none_iff, hfirst, hrest, Sound]

theorem Sound.mono {m : Nat} (h : Sound m code) (hle : m ≤ n) : Sound n code := by
  induction code with
  | nil => trivial
  | cons ix rest ih =>
    refine ⟨instructionFault?_mono ?_ h.1, ih h.2⟩
    omega

/-- A part in front has the other part behind it as well. -/
theorem sound_append_iff :
    Sound n (code ++ more) ↔ Sound (more.length + n) code ∧ Sound n more := by
  induction code with
  | nil => simp [Sound]
  | cons ix rest ih =>
    rw [List.cons_append, Sound, Sound, ih, List.length_append, Nat.add_assoc rest.length,
      and_assoc]

/-- The jumps of a condition are sound if there is something behind what they skip. -/
theorem sound_termJumps {beyond : Nat} {terms : List Term} (hbeyond : beyond < n)
    (hlength : terms.length + beyond ≤ 256) : Sound n (termJumps beyond terms) := by
  induction terms with
  | nil => trivial
  | cons t later ih =>
    rw [List.length_cons] at hlength
    have hdistance : (UInt8.ofNat (later.length + beyond)).toNat = later.length + beyond :=
      toNat_ofNat_of_le (Nat.le_of_lt_succ (by unfold Statement.maxSkip; omega))
    refine ⟨?_, ih (by omega)⟩
    rw [instructionFault?_jump_eq_none_iff, Statement.length_termJumps, toNat_max, hdistance]
    show 0 + 1 + max (later.length + beyond) 0 < _
    omega

/-! ## Code with nothing wrong but its length -/

/-- Code in which the verifier finds no fault, its length apart. -/
structure WellBuilt (code : List Instruction) : Prop where
  sound : Sound 0 code
  endsInReturn : endsInReturn code = true

theorem WellBuilt.ne_nil (h : WellBuilt code) : code ≠ [] :=
  ne_nil_of_endsInReturn h.endsInReturn

/-- The verifier judges it by its length. -/
theorem WellBuilt.fault?_eq (h : WellBuilt code) :
    fault? code = if maxInstructions < code.length then
      some (.tooManyInstructions code.length maxInstructions) else none := by
  have hne : ¬ code.isEmpty = true := by simpa using h.ne_nil
  have hfirst : firstFault? code.length 0 code = none := by
    have hsound := (firstFault?_eq_none_iff_sound 0).mpr h.sound
    rw [Nat.zero_add] at hsound
    exact hsound
  rw [fault?, if_neg hne, hfirst]
  split
  · rfl
  · exact if_pos h.endsInReturn

theorem Program.wellBuilt (p : Program) : WellBuilt p.code := by
  have hcode : WellFormed p.code := p.wellFormed
  refine ⟨(firstFault?_eq_none_iff_sound 0).mp ?_, hcode.endsInReturn⟩
  rw [firstFault?_eq_none_iff]
  intro i ix hix
  rw [Nat.zero_add, Nat.zero_add]
  exact hcode.instruction i ix hix

theorem endsInReturn_append (hmore : more ≠ []) :
    endsInReturn (code ++ more) = endsInReturn more := by
  rw [endsInReturn, endsInReturn, List.getLast?_append, List.getLast?_eq_some_getLast hmore]
  rfl

/-- What stands in front of well-built code only has to be sound there. -/
theorem WellBuilt.append (hcode : Sound more.length code) (hmore : WellBuilt more) :
    WellBuilt (code ++ more) := by
  refine ⟨sound_append_iff.mpr ⟨hcode, hmore.sound⟩, ?_⟩
  rw [endsInReturn_append hmore.ne_nil, hmore.endsInReturn]

/-- A nonempty end of well-built code is well-built. -/
theorem WellBuilt.suffix (h : WellBuilt code) (hmore : more <:+ code) (hne : more ≠ []) :
    WellBuilt more := by
  obtain ⟨front, rfl⟩ := hmore
  refine ⟨(sound_append_iff.mp h.sound).2, ?_⟩
  rw [← endsInReturn_append hne, h.endsInReturn]

/-- Whether the verifier takes the code hangs on its length alone, which is `n`. -/
def JudgedByLength (code : List Instruction) (n : Nat) : Prop :=
  ((∃ r, Program.ofCode code = .ok r) ↔ n ≤ 4096) ∧
    ∀ e, Program.ofCode code = .error e → e = .tooManyInstructions n 4096

theorem exists_ofCode_iff : (∃ r, Program.ofCode code = .ok r) ↔ fault? code = none := by
  constructor
  · rintro ⟨r, hr⟩
    rw [Program.ofCode_eq_ok_iff] at hr
    rw [← hr, r.verified]
  · intro h
    exact ⟨⟨code, h⟩, Program.ofCode_eq_ok_iff.mpr rfl⟩

theorem WellBuilt.judgedByLength (h : WellBuilt code) (hn : code.length = n) :
    JudgedByLength code n := by
  subst hn
  constructor
  · rw [exists_ofCode_iff, h.fault?_eq]
    show (if 4096 < code.length then _ else _) = none ↔ _
    split
    · next hlong => simp [Nat.not_le.mpr hlong]
    · next hlong => simp [Nat.not_lt.mp hlong]
  · intro e he
    rw [Program.ofCode_eq_error_iff, h.fault?_eq] at he
    split at he
    · cases he
      rfl
    · cases he

/-! ## Statements with programs as bodies -/

/-- A jump that skips no more than the body behind it is sound in front of any instruction. -/
theorem sound_jump_body {condition : Condition} {k : UInt32} {jt jf : UInt8}
    (hskip : max jt.toNat jf.toNat = code.length) (hbody : Sound 0 code) (hn : 0 < n) :
    Sound n (.jump condition k jt jf :: code) := by
  refine ⟨?_, hbody.mono (Nat.zero_le n)⟩
  rw [instructionFault?_jump_eq_none_iff, toNat_max, hskip]
  omega

theorem sound_when {term : Term} {body : List Instruction}
    (h : Statement.when term body = .ok code) (hbody : Sound 0 body) (hn : 0 < n) :
    Sound n code := by
  obtain ⟨hlength, rfl⟩ := Statement.when_eq_ok h
  apply sound_jump_body _ hbody hn
  rw [toNat_ofNat_of_le hlength]
  exact Nat.zero_max _

theorem sound_whenNot {term : Term} {body : List Instruction}
    (h : Statement.whenNot term body = .ok code) (hbody : Sound 0 body) (hn : 0 < n) :
    Sound n code := by
  obtain ⟨hlength, rfl⟩ := Statement.whenNot_eq_ok h
  apply sound_jump_body _ hbody hn
  rw [toNat_ofNat_of_le hlength]
  exact Nat.max_zero _

/-- Programs as the two bodies of a statement make well-built code. -/
theorem wellBuilt_whenAnyElse {terms : List Term} {matched fallback : List Instruction}
    (h : Statement.whenAnyElse terms matched fallback = .ok code) (hmatched : WellBuilt matched)
    (hfallback : WellBuilt fallback) : WellBuilt code := by
  obtain ⟨-, -, hlength, rfl⟩ := Statement.whenAnyElse_eq_ok h
  have hpos : 0 < matched.length := List.length_pos_iff.mpr hmatched.ne_nil
  apply WellBuilt.append _ hmatched
  -- All jumps lead to the matched body, so that it has an instruction keeps them inside.
  rw [sound_append_iff]
  refine ⟨sound_termJumps ?_ hlength, hfallback.sound.mono (Nat.zero_le _)⟩
  omega

/-- **Verification composes.**  A nonempty end of a program is a program.  Two programs one after
the other, a program as the body of a statement with one term in front of another program, and a
statement under several terms with programs as its bodies are taken exactly if they are not too
long, and if they are not taken, that is the reason. -/
theorem ofCode_composes (p q : Program) (term : Term) (terms : List Term) (hterms : terms ≠ []) :
    (∀ code, code <:+ p.code → code ≠ [] → ∃ r, Program.ofCode code = .ok r) ∧
    JudgedByLength (p.code ++ q.code) (p.length + q.length) ∧
    (p.length ≤ 255 → ∃ code codeNot,
      Statement.when term p.code = .ok code ∧ Statement.whenNot term p.code = .ok codeNot ∧
      JudgedByLength (code ++ q.code) (1 + p.length + q.length) ∧
      JudgedByLength (codeNot ++ q.code) (1 + p.length + q.length)) ∧
    (terms.length + q.length ≤ 256 → ∃ code,
      Statement.whenAnyElse terms p.code q.code = .ok code ∧
      JudgedByLength code (terms.length + q.length + p.length)) := by
  have hp : WellBuilt p.code := p.wellBuilt
  have hq : WellBuilt q.code := q.wellBuilt
  have hpos : 0 < q.code.length := List.length_pos_iff.mpr hq.ne_nil
  refine ⟨fun code hend hne => ?_, ?_, fun hshort => ?_, fun hshort => ?_⟩
  · have hlength : code.length ≤ 4096 := Nat.le_trans hend.length_le p.wellFormed.length_le
    exact ((hp.suffix hend hne).judgedByLength rfl).1.mpr hlength
  · have hbefore : Sound q.code.length p.code := hp.sound.mono (Nat.zero_le _)
    exact (hq.append hbefore).judgedByLength List.length_append
  · obtain ⟨code, hwhen⟩ := Statement.exists_when_iff.mpr hshort
    obtain ⟨codeNot, hwhenNot⟩ := Statement.exists_whenNot_iff.mpr hshort
    have hlength : p.code.length + 1 + q.code.length = 1 + p.length + q.length := by
      rw [Nat.add_comm p.code.length]
      rfl
    refine ⟨code, codeNot, hwhen, hwhenNot, ?_, ?_⟩
    · apply (hq.append (sound_when hwhen hp.sound hpos)).judgedByLength
      rw [List.length_append, (Guards.of_when hwhen).length_eq, hlength]
    · apply (hq.append (sound_whenNot hwhenNot hp.sound hpos)).judgedByLength
      rw [List.length_append, (Guards.of_whenNot hwhenNot).length_eq, hlength]
  · have hfew : 0 < terms.length := List.length_pos_iff.mpr hterms
    have hreach : q.code.length ≤ 255 := by
      unfold Program.length at hshort
      omega
    obtain ⟨code, hcode⟩ : ∃ code, Statement.whenAnyElse terms p.code q.code = .ok code :=
      Statement.exists_whenAnyElse_iff.mpr
        ⟨hterms, Statement.endsInReturn_iff.mp hq.endsInReturn, hreach, hshort⟩
    refine ⟨code, hcode, (wellBuilt_whenAnyElse hcode hp hq).judgedByLength ?_⟩
    exact Statement.length_eq_of_whenAnyElse hcode

/-- A check of the architecture as the matched body, in front of a load that reads the number. -/
theorem ofCode_composes_architecture_check :
    let p : Program := ⟨[.load 4, .jump .equal 0xc000003e 1 0, .ret 0x80000000, .ret 0x7fff0000],
      by decide⟩
    let q : Program := ⟨[.load 0, .jump .bitSet 64 0 1, .ret 0x50001, .ret 0x7fff0000], by decide⟩
    let terms : List Term := [⟨.equal, 1⟩, ⟨.bitSet, 2⟩, ⟨.equal, 3⟩]
    terms ≠ [] ∧ (∃ r, Program.ofCode (p.code ++ q.code) = .ok r) ∧
      ∃ code r, Statement.whenAnyElse terms p.code q.code = .ok code ∧
        Program.ofCode code = .ok r ∧ r.length = 11 := by
  intro p q terms
  have hterms : terms ≠ [] := List.cons_ne_nil _ _
  obtain ⟨-, hjoined, -, hstatement⟩ := ofCode_composes p q ⟨.equal, 0⟩ terms hterms
  obtain ⟨code, hcode, hjudged, -⟩ := hstatement (by decide)
  obtain ⟨r, hr⟩ := hjudged.mpr (by decide)
  refine ⟨hterms, hjoined.1.mpr (by decide), code, r, hcode, hr, ?_⟩
  rw [Program.length, Program.ofCode_eq_ok_iff.mp hr, Statement.length_eq_of_whenAnyElse hcode]
  rfl

end TtyGuard.Seccomp
