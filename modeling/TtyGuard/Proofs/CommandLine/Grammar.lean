/-
# TtyGuard.Proofs.CommandLine.Grammar — which arguments ask for what

The arguments that are understood, as a grammar: `Asks`.  An option is named in full or by its letter
and is obeyed whatever follows it; an output may have two dashes in front of it or behind it and is
never empty.  `read_eq_ok_iff` says that arguments are read by this grammar and by no other.
-/
import TtyGuard.CommandLine.Arguments

namespace TtyGuard.CommandLine

/-! ## The grammar -/

/-- An argument that is not an option: it does not begin with a dash, or is nothing else. -/
def Plain (arg : String) : Prop := arg = "-" ∨ arg.toList.head? ≠ some '-'

/-- An argument that stands for an option, by its name or by its letter. -/
def Calls (arg : String) (s : Switch) : Prop :=
  arg = "--" ++ s.name ∨ ∃ rest, arg.toList = '-' :: s.letter :: rest

/-- What arguments ask for. -/
inductive Asks : List String → Request → Prop
  /-- What follows an option does not matter. -/
  | inform {arg s rest} (hcalls : Calls arg s) : Asks (arg :: rest) (.inform s)
  | informBehind {output arg s rest} (hplain : Plain output) (hne : output ≠ "")
      (hcalls : Calls arg s) : Asks (output :: arg :: rest) (.inform s)
  | write {output} (hplain : Plain output) (hne : output ≠ "") : Asks [output] (.write output)
  | writeBefore {output} (hplain : Plain output) (hne : output ≠ "") :
      Asks [output, "--"] (.write output)
  /-- Behind two dashes an output may look like an option. -/
  | writeBehind {output} (hne : output ≠ "") : Asks ["--", output] (.write output)

variable {arg output : String} {args : List String} {s : Switch} {r r' : Request}

/-! ## Forms -/

namespace Form

/-- The option that an argument of this form stands for, if there is one. -/
def switch? : Form → Option Switch
  | long name none => Switch.all.find? (·.name = name)
  | short letter => Switch.all.find? (·.letter = letter)
  | _ => none

theorem ofArgument_eq_dashes_iff : ofArgument arg = .dashes ↔ arg = "--" := by
  constructor
  · intro h
    unfold ofArgument at h
    split at h
    · next hchars => exact String.toList_inj.mp hchars
    all_goals cases h
  · rintro rfl
    rfl

theorem ofArgument_eq_plain_iff : ofArgument arg = .plain ↔ Plain arg := by
  have hdash : arg = "-" ↔ arg.toList = ['-'] := String.toList_inj.symm
  rw [Plain, hdash]
  unfold ofArgument
  cases arg.toList with
  | nil => simp
  | cons first rest =>
    by_cases hfirst : first = '-'
    · subst hfirst
      cases rest with
      | nil => simp
      | cons second rest =>
        by_cases hsecond : second = '-'
        · subst hsecond
          cases rest with
          | _ => simp
        · simp [hsecond]
    · simp [hfirst]

theorem find?_name {name : String} :
    Switch.all.find? (·.name = name) = some s ↔ s.name = name := by
  constructor
  · intro h
    simpa using List.find?_some h
  · rintro rfl
    cases s with
    | _ => decide

theorem find?_letter {letter : Char} :
    Switch.all.find? (·.letter = letter) = some s ↔ s.letter = letter := by
  constructor
  · intro h
    simpa using List.find?_some h
  · rintro rfl
    cases s with
    | _ => decide

theorem switch?_ofArgument_iff : (ofArgument arg).switch? = some s ↔ Calls arg s := by
  constructor
  · intro h
    unfold ofArgument at h
    split at h
    · cases h
    · next cs _ hchars =>
      -- Without an equals sign the name is all that follows the dashes.
      cases hrest : cs.drop (cs.takeWhile (· ≠ '=')).length with
      | cons equals value =>
        simp only [hrest] at h
        cases h
      | nil =>
        simp only [hrest] at h
        have hall : cs.takeWhile (· ≠ '=') = cs :=
          (List.takeWhile_prefix _).eq_of_length_le (List.drop_eq_nil_iff.mp hrest)
        have hname : s.name = .ofList cs := hall ▸ find?_name.mp h
        refine .inl (String.toList_inj.mp ?_)
        simp [hchars, hname]
    · next letter rest _ _ hchars =>
      exact .inr ⟨rest, by rw [hchars, find?_letter.mp h]⟩
    · cases h
  · rintro (rfl | ⟨rest, hchars⟩)
    · cases s with
      | _ => rfl
    · unfold ofArgument
      rw [hchars]
      cases s with
      | _ => rfl

end Form

/-! ## Reading -/

theorem acting_eq_ok_iff {output : Option String} :
    acting output s = .ok r ↔ output ≠ some "" ∧ r = .inform s := by
  unfold acting
  split
  · next hempty => simp [hempty]
  · next hne => simp [hne, eq_comm]

/-- An option is obeyed unless an empty output stands in front of it. -/
theorem readFrom_option {output : Option String} (hdashes : arg ≠ "--") (hplain : ¬ Plain arg) :
    readFrom output false (arg :: args) = .ok r ↔
      output ≠ some "" ∧ ∃ s, Calls arg s ∧ r = .inform s := by
  have hswitch {form : Form} (hform : Form.ofArgument arg = form) (hno : form.switch? = none) :
      ¬ ∃ s, Calls arg s ∧ r = .inform s := by
    rintro ⟨s, hcalls, -⟩
    rw [← Form.switch?_ofArgument_iff, hform, hno] at hcalls
    cases hcalls
  have hobey {form : Form} (hform : Form.ofArgument arg = form) {s : Switch}
      (hs : form.switch? = some s) :
      (∃ s, Calls arg s ∧ r = .inform s) ↔ r = .inform s := by
    have hiff (s' : Switch) : Calls arg s' ↔ s' = s := by
      rw [← Form.switch?_ofArgument_iff, hform, hs]
      exact ⟨fun h => (Option.some.inj h).symm, fun h => congrArg some h.symm⟩
    simp only [hiff, exists_eq_left]
  rw [readFrom]
  simp only [Bool.false_eq_true, if_false]
  cases hform : Form.ofArgument arg with
  | dashes => exact absurd (Form.ofArgument_eq_dashes_iff.mp hform) hdashes
  | plain => exact absurd (Form.ofArgument_eq_plain_iff.mp hform) hplain
  | long name value =>
    cases value with
    | some value =>
      have hnone := hswitch hform rfl
      cases hfind : Switch.all.find? (·.name = name) with
      | none => simp [hfind, hnone]
      | some s => simp [hfind, hnone]
    | none =>
      cases hfind : Switch.all.find? (·.name = name) with
      | none => simp [hswitch hform hfind, hfind]
      | some s =>
        simp only [hfind]
        rw [hobey hform hfind, acting_eq_ok_iff]
  | short letter =>
    cases hfind : Switch.all.find? (·.letter = letter) with
    | none => simp [hswitch hform hfind, hfind]
    | some s =>
      simp only [hfind]
      rw [hobey hform hfind, acting_eq_ok_iff]

/-- At the end there has to be an output. -/
theorem readFrom_nil {output : Option String} {dashed : Bool} :
    readFrom output dashed [] = .ok r ↔
      ∃ text, text ≠ "" ∧ output = some text ∧ r = .write text := by
  unfold readFrom
  split
  · exact ⟨nofun, fun ⟨_, _, hnone, _⟩ => nomatch hnone⟩
  · exact ⟨nofun, fun ⟨_, hne, hempty, _⟩ => absurd (Option.some.inj hempty).symm hne⟩
  · next text hne =>
    constructor
    · rintro ⟨⟩
      exact ⟨text, hne, rfl, rfl⟩
    · rintro ⟨_, -, ⟨⟩, rfl⟩
      rfl

theorem readFrom_plain {output : Option String} {dashed : Bool}
    (hplain : dashed = true ∨ Plain arg) :
    readFrom output dashed (arg :: args) = .ok r ↔
      output = none ∧ readFrom (some arg) dashed args = .ok r := by
  have hform : (if dashed then Form.plain else Form.ofArgument arg) = .plain := by
    split
    · rfl
    · next hdashed => exact Form.ofArgument_eq_plain_iff.mpr (hplain.resolve_left hdashed)
  rw [readFrom, hform]
  cases output with
  | none => simp
  | some text => simp

theorem readFrom_dashes {output : Option String} :
    readFrom output false ("--" :: args) = readFrom output true args := by
  rw [readFrom]
  rfl

/-- Behind two dashes there is at most the output. -/
theorem readFrom_dashed {output : Option String} :
    readFrom output true args = .ok r ↔
      ∃ text, text ≠ "" ∧ r = .write text ∧
        (output = some text ∧ args = [] ∨ output = none ∧ args = [text]) := by
  cases args with
  | nil =>
    rw [readFrom_nil]
    grind
  | cons arg args =>
    rw [readFrom_plain (.inl rfl)]
    cases args with
    | nil =>
      rw [readFrom_nil]
      grind
    | cons next args =>
      rw [readFrom_plain (.inl rfl)]
      grind

theorem Calls.not_plain (h : Calls arg s) : ¬ Plain arg := by
  intro hplain
  rw [← Form.switch?_ofArgument_iff, Form.ofArgument_eq_plain_iff.mpr hplain] at h
  cases h

theorem Calls.ne_dashes (h : Calls arg s) : arg ≠ "--" := by
  intro hdashes
  rw [← Form.switch?_ofArgument_iff, Form.ofArgument_eq_dashes_iff.mpr hdashes] at h
  cases h

/-- An option that is called is obeyed unless an empty output stands in front of it. -/
theorem readFrom_calls {output : Option String} (h : Calls arg s) :
    readFrom output false (arg :: args) = .ok (.inform s) ↔ output ≠ some "" := by
  rw [readFrom_option h.ne_dashes h.not_plain]
  exact ⟨And.left, fun hne => ⟨hne, s, h, rfl⟩⟩

/-- After an output there may be two dashes or an option with anything behind it. -/
theorem readFrom_output :
    readFrom (some output) false args = .ok r ↔ output ≠ "" ∧
      (r = .write output ∧ (args = [] ∨ args = ["--"]) ∨
        ∃ arg rest s, args = arg :: rest ∧ Calls arg s ∧ r = .inform s) := by
  cases args with
  | nil =>
    rw [readFrom_nil]
    grind
  | cons arg rest =>
    by_cases hdashes : arg = "--"
    · subst hdashes
      rw [readFrom_dashes, readFrom_dashed]
      grind [Calls.ne_dashes]
    by_cases hplain : Plain arg
    · rw [readFrom_plain (.inr hplain)]
      grind [Calls.not_plain]
    · rw [readFrom_option hdashes hplain]
      grind

/-- Arguments are read by the grammar. -/
theorem read_eq_ok_iff : read args = .ok r ↔ Asks args r := by
  unfold read
  constructor
  · intro h
    cases args with
    | nil => cases h
    | cons arg rest =>
      by_cases hdashes : arg = "--"
      · subst hdashes
        rw [readFrom_dashes, readFrom_dashed] at h
        obtain ⟨text, hne, rfl, ⟨⟨⟩, -⟩ | ⟨-, rfl⟩⟩ := h
        exact .writeBehind hne
      by_cases hplain : Plain arg
      · rw [readFrom_plain (.inr hplain), readFrom_output] at h
        obtain ⟨-, hne, ⟨rfl, rfl | rfl⟩ | ⟨next, rest, s, rfl, hcalls, rfl⟩⟩ := h
        · exact .write hplain hne
        · exact .writeBefore hplain hne
        · exact .informBehind hplain hne hcalls
      · rw [readFrom_option hdashes hplain] at h
        obtain ⟨-, s, hcalls, rfl⟩ := h
        exact .inform hcalls
  · intro h
    cases h with
    | inform hcalls => exact (readFrom_calls hcalls).mpr nofun
    | informBehind hplain hne hcalls =>
      rw [readFrom_plain (.inr hplain), readFrom_output]
      exact ⟨rfl, hne, .inr ⟨_, _, _, rfl, hcalls, rfl⟩⟩
    | write hplain hne =>
      rw [readFrom_plain (.inr hplain), readFrom_output]
      exact ⟨rfl, hne, .inl ⟨rfl, .inl rfl⟩⟩
    | writeBefore hplain hne =>
      rw [readFrom_plain (.inr hplain), readFrom_output]
      exact ⟨rfl, hne, .inl ⟨rfl, .inr rfl⟩⟩
    | writeBehind hne =>
      rw [readFrom_dashes, readFrom_dashed]
      exact ⟨_, hne, rfl, .inr ⟨rfl, rfl⟩⟩

namespace Asks

/-- Arguments do not ask for two things. -/
theorem unique (h : Asks args r) (h' : Asks args r') : r = r' :=
  Except.ok.inj ((read_eq_ok_iff.mpr h).symm.trans (read_eq_ok_iff.mpr h'))

/-- An output is never empty. -/
theorem ne_empty (h : Asks args (.write output)) : output ≠ "" := by
  cases h with
  | write _ hne | writeBefore _ hne | writeBehind hne => exact hne

end Asks

end TtyGuard.CommandLine
