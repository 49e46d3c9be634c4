/-
# TtyGuard.Proofs.Disk.Lexical — steps and lexical parts of a path

A path is cut into a last name and a parent by its text, and walked by its steps.  The two views meet
here: if the last step of a path goes down to a name, that name is its last segment (`exists_front`),
it is the path's file name, and the parent has the steps in front of it, up to steps that stay where
they are (`steps_parent`).  A path that is put under a directory has the directory's steps in front
of its own (`segments_under`).
-/
import Mathlib
import TtyGuard.Proofs.Disk.Tree

namespace TtyGuard.Path

variable {p dir : Path} {front : List String} {name : String}

/-! ## Steps of segments -/

/-- The steps that segments stand for, but for slashes at their end. -/
def stepsOf (segments : List String) : List Step :=
  (segments.filter (!·.isEmpty)).map Step.ofSegment

theorem stepsOf_append (front back : List String) :
    stepsOf (front ++ back) = stepsOf front ++ stepsOf back := by
  simp [stepsOf]

/-- Names lead down only. -/
theorem stepsOf_names {names : List String} (h : ∀ name ∈ names, IsName name) :
    stepsOf names = names.map .down := by
  have hkeep : names.filter (!·.isEmpty) = names :=
    List.filter_eq_self.mpr fun name hname => by simpa using (h name hname).1
  rw [stepsOf, hkeep]
  exact List.map_congr_left fun name hname => Step.ofSegment_of_isName (h name hname)

theorem stepsOf_ofLocation {loc : Location} (h : ∀ name ∈ loc, IsName name) :
    stepsOf (ofLocation loc).segments = loc.reverse.map .down := by
  cases loc with
  | nil => rfl
  | cons name dir => exact stepsOf_names fun x hx => h x (List.mem_reverse.mp hx)

theorem ofSegment_eq_down_iff {segment : String} (hne : segment ≠ "") :
    Step.ofSegment segment = .down name ↔ segment = name ∧ IsName name := by
  constructor
  · intro h
    unfold Step.ofSegment at h
    split at h
    · cases h
    next hdot =>
    split at h
    · cases h
    next hup =>
    cases h
    exact ⟨rfl, hne, hdot, hup⟩
  · rintro ⟨rfl, hname⟩
    exact Step.ofSegment_of_isName hname

/-- A path that ends in a name has one step for it, after those of the segments in front. -/
theorem steps_of_concat (h : p.segments = front ++ [name]) (hname : IsName name) :
    p.steps = stepsOf front ++ [.down name] := by
  have hending : p.segments.getLast?.any String.isEmpty = false := by
    rw [h, List.getLast?_concat]
    simpa using hname.1
  show stepsOf p.segments ++ (if p.segments.getLast?.any String.isEmpty && _ then _ else _) = _
  rw [hending, Bool.false_and, if_neg Bool.false_ne_true, List.append_nil, h, stepsOf_append,
    stepsOf_names (List.forall_mem_singleton.mpr hname), List.map_singleton]

/-- A path whose last step goes down to a name ends in that name. -/
theorem exists_front {init : List Step} (h : p.steps = init ++ [.down name]) :
    ∃ front, p.segments = front ++ [name] ∧ stepsOf front = init ∧ IsName name := by
  obtain ⟨front, last, hsegments⟩ : ∃ front last, p.segments = front ++ [last] :=
    ⟨_, _, (List.dropLast_append_getLast (List.cons_ne_nil p.first p.rest)).symm⟩
  have hsteps : p.steps = stepsOf (front ++ [last]) ++
      if last.isEmpty && !((front ++ [last]).filter (!·.isEmpty)).isEmpty then [.slash] else [] := by
    rw [steps, hsegments, List.getLast?_concat]
    rfl
  rw [hsteps, stepsOf_append] at h
  by_cases hlast : last = ""
  · -- Behind a slash there is no name: the steps end with the slash, or there are none.
    subst hlast
    split at h
    · exact nomatch (List.append_inj_right' h rfl)
    · next hnone =>
      have hnil : stepsOf front = [] := by
        simpa [stepsOf] using hnone
      rw [hnil] at h
      exact absurd (congrArg List.length h) (by simp [stepsOf])
  · have hempty : last.isEmpty = false := by simpa using hlast
    have hkeep : [last].filter (!·.isEmpty) = [last] :=
      List.filter_cons_of_pos (by simpa using hlast)
    have hstep : stepsOf [last] = [Step.ofSegment last] := by
      rw [stepsOf, hkeep, List.map_singleton]
    rw [hempty, Bool.false_and, if_neg Bool.false_ne_true, List.append_nil, hstep] at h
    obtain ⟨hinit, hdown⟩ := List.append_inj' h rfl
    obtain ⟨rfl, hname⟩ := (ofSegment_eq_down_iff hlast).mp (List.singleton_inj.mp hdown)
    exact ⟨front, hsegments, hinit, hname⟩

/-! ## Lexical parts -/

theorem withoutTail_eq_rdropWhile (segments : List String) :
    withoutTail segments = segments.rdropWhile fun s => s.isEmpty || s = "." := rfl

/-- The segments at the end that do not count stay where they are. -/
theorem stepsOf_withoutTail (segments : List String) :
    ∃ n, stepsOf segments = stepsOf (withoutTail segments) ++ List.replicate n .here := by
  induction segments using List.reverseRecOn with
  | nil => exact ⟨0, rfl⟩
  | append_singleton front last ih =>
    obtain ⟨n, hn⟩ := ih
    rw [withoutTail_eq_rdropWhile, List.rdropWhile_concat]
    split
    · next hskip =>
      rw [← withoutTail_eq_rdropWhile, stepsOf_append, hn, List.append_assoc]
      rcases Bool.or_eq_true_iff.mp hskip with hempty | hdot
      · obtain rfl : last = "" := by simpa using hempty
        exact ⟨n, by simp [stepsOf]⟩
      · obtain rfl : last = "." := of_decide_eq_true hdot
        refine ⟨n + 1, ?_⟩
        rw [List.replicate_succ']
        rfl
    · exact ⟨0, (List.append_nil _).symm⟩

theorem withoutTail_concat (hname : IsName name) :
    withoutTail (front ++ [name]) = front ++ [name] := by
  rw [withoutTail_eq_rdropWhile, List.rdropWhile_concat_neg]
  simpa using ⟨hname.1, hname.2.1⟩

/-- What is left without the tail does not end in a slash. -/
theorem getLast?_withoutTail (segments : List String) :
    (withoutTail segments).getLast? ≠ some "" := by
  intro h
  rw [withoutTail_eq_rdropWhile] at h
  obtain ⟨hne, hlast⟩ := List.mem_getLast?_eq_getLast h
  exact List.rdropWhile_last_not _ _ hne (hlast ▸ rfl)

theorem fileName?_of_concat (h : p.segments = front ++ [name]) (hname : IsName name) :
    p.fileName? = some name := by
  rw [fileName?, h, withoutTail_concat hname, List.getLast?_concat]
  simpa [Option.filter] using hname.2.2

/-- The three forms of a parent. -/
theorem segments_parent (h : p.segments = front ++ [name]) (hname : IsName name) :
    p.parent.segments =
      if withoutTail front = [] then (if p.isAbsolute then ["", ""] else ["."])
      else withoutTail front := by
  rw [parent, h, withoutTail_concat hname, List.dropLast_concat]
  cases withoutTail front with
  | nil =>
    rw [if_pos rfl]
    dsimp only
    split
    · rfl
    · rfl
  | cons first rest => rfl

/-- The parent has no segments of its own but those that stand for a directory. -/
theorem mem_segments_parent {segment : String} (h : p.segments = front ++ [name])
    (hname : IsName name) (hmem : segment ∈ p.parent.segments) :
    segment = "" ∨ segment = "." ∨ segment ∈ p.segments := by
  rw [segments_parent h hname] at hmem
  split at hmem
  · split at hmem
    · exact .inl (by simpa using hmem)
    · exact .inr (.inl (List.mem_singleton.mp hmem))
  · have hfront : segment ∈ front := (List.rdropWhile_prefix _ _).subset hmem
    exact .inr (.inr (h ▸ List.mem_append_left _ hfront))

/-- Up to steps that stay, the parent has the steps in front of the last one. -/
theorem steps_parent (h : p.segments = front ++ [name]) (hname : IsName name) :
    ∃ init n n', stepsOf front = init ++ List.replicate n .here ∧
      stepsOf p.parent.segments = init ++ List.replicate n' .here := by
  obtain ⟨n, hn⟩ := stepsOf_withoutTail front
  rw [segments_parent h hname]
  split
  · next hnil =>
    rw [hnil] at hn
    split
    · exact ⟨[], n, 0, hn, rfl⟩
    · exact ⟨[], n, 1, hn, rfl⟩
  · exact ⟨_, n, 0, hn, (List.append_nil _).symm⟩

/-- The parent begins where the path does. -/
theorem isAbsolute_parent (h : p.segments = front ++ [name]) (hname : IsName name) :
    p.parent.isAbsolute = p.isAbsolute := by
  rw [parent, h, withoutTail_concat hname, List.dropLast_concat]
  cases hfront : withoutTail front with
  | nil =>
    dsimp only
    split
    · next habsolute => exact habsolute.symm
    · next hrelative => exact (Bool.not_eq_true _ ▸ hrelative).symm
  | cons first rest =>
    obtain ⟨more, hmore⟩ : first :: rest <+: front :=
      hfront ▸ List.rdropWhile_prefix _ _
    obtain ⟨rfl, hrest⟩ : p.first = first ∧ p.rest = rest ++ more ++ [name] := by
      rw [← hmore] at h
      exact List.cons.inj h
    have hlast := getLast?_withoutTail front
    rw [hfront] at hlast
    cases rest with
    | nil =>
      have hne : p.first ≠ "" := fun heq => hlast (heq ▸ rfl)
      simp [isAbsolute, hrest, hne]
    | cons second rest => simp [isAbsolute, hrest]

theorem isEmpty_parent (p : Path) : p.parent.isEmpty = false := by
  rw [parent]
  split
  · split
    · rfl
    · rfl
  · next first rest hparent =>
    have hlast := getLast?_withoutTail (withoutTail p.segments).dropLast
    rw [hparent] at hlast
    cases rest with
    | nil =>
      have hne : first ≠ "" := fun heq => hlast (heq ▸ rfl)
      simpa [isEmpty] using hne
    | cons second rest => simp [isEmpty]

/-! ## Paths under other paths -/

/-- Under a directory, the directory's segments come first, without a slash at their end. -/
theorem segments_under (dir : Path) :
    ∃ front, (∀ p, (dir.under p).segments = front ++ p.segments) ∧
      stepsOf front = stepsOf dir.segments ∧ ∀ s ∈ front, s ∈ dir.segments := by
  unfold under
  split
  · next before hreverse =>
    have hdir : dir.segments = before.reverse ++ [""] := by
      rw [← List.reverse_cons, ← hreverse, List.reverse_reverse]
    refine ⟨before.reverse, fun p => ?_, ?_, ?_⟩
    · cases hjoined : before.reverse ++ p.segments with
      | nil => exact absurd (List.append_eq_nil_iff.mp hjoined).2 (List.cons_ne_nil _ _)
      | cons first rest => rfl
    · rw [hdir, stepsOf_append]
      simp [stepsOf]
    · intro s hs
      rw [hdir]
      exact List.mem_append_left _ hs
  · exact ⟨dir.segments, fun _ => rfl, rfl, fun s hs => hs⟩

theorem isAbsolute_ofLocation (loc : Location) : (ofLocation loc).isAbsolute = true := by
  cases loc with
  | nil => rfl
  | cons name dir => simp [ofLocation, isAbsolute]

theorem isEmpty_of_isAbsolute (h : p.isAbsolute = true) : p.isEmpty = false := by
  obtain ⟨hfirst, hrest⟩ := Bool.and_eq_true_iff.mp h
  rw [isEmpty, hfirst, Bool.true_and]
  exact Bool.not_eq_true' _ |>.mp hrest

/-- A path under a directory begins where the directory does. -/
theorem isAbsolute_under (hdir : dir.isEmpty = false) :
    (dir.under p).isAbsolute = dir.isAbsolute := by
  obtain ⟨first, rest⟩ := dir
  unfold under
  split
  · next before hreverse =>
    have hsegments : first :: rest = before.reverse ++ [""] := by
      rw [← List.reverse_cons, ← hreverse, List.reverse_reverse]
      rfl
    cases hbefore : before.reverse with
    | nil =>
      rw [hbefore] at hsegments
      cases hsegments
      cases hdir
    | cons first' rest' =>
      rw [hbefore] at hsegments
      cases hsegments
      have hmore (last : String) (back : List String) : (rest' ++ last :: back).isEmpty = false :=
        List.isEmpty_eq_false_iff.mpr (List.append_ne_nil_of_right_ne_nil _ (List.cons_ne_nil _ _))
      show (first.isEmpty && !(rest' ++ p.first :: p.rest).isEmpty) =
        (first.isEmpty && !(rest' ++ [""]).isEmpty)
      rw [hmore, hmore]
  · cases rest with
    | nil => simpa [isAbsolute, isEmpty, segments] using hdir
    | cons second rest => simp [isAbsolute]

/-! ## Lengths -/

end TtyGuard.Path
