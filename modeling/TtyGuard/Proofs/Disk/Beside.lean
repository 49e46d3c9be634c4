/-
# TtyGuard.Proofs.Disk.Beside — other names in the directory that a walk ends in

A walk that ends at a name came there through a directory, and with another last name it would have
ended beside it.  `Reaches.beside` says so, up to steps that stay where they are; it follows from
`Reaches.append_congr`, which exchanges the end of a walk for one that goes on alike from wherever
the front leads.  The other facts about walks that end at a name:

  * `Reaches.in_manner` — what a manner does with slashes does not matter to them;
  * `Reaches.exists_link` — a walk that follows the last link can also stop at it;
  * `Reaches.descend` — the way down to a directory can be put in front of them;
  * `Reaches.spelled` — asking for every name by its whole path makes no difference on a disk
    where no path is too long.
-/
import TtyGuard.Proofs.Disk.Lexical

namespace TtyGuard

/-- A name that the kernel takes. -/
def Storable (name : String) : Prop :=
  '\x00' ∉ name.toList ∧ name.utf8ByteSize ≤ Disk.maxNameLength

instance (name : String) : Decidable (Storable name) := inferInstanceAs (Decidable (_ ∧ _))

/-- Where the entry leads, if it is a link. -/
def Entry.target? : Entry → Option Path
  | link target => some target
  | _ => none

namespace Path

theorem hasNul_eq_false_iff {p : Path} :
    p.hasNul = false ↔ ∀ s ∈ p.segments, '\x00' ∉ s.toList := by
  simp [hasNul]

end Path

namespace Disk

open TtyGuard.Path (Step)

/-- All names on the disk, those that links lead through among them, are ones that the kernel
takes. -/
structure WellNamed (d : Disk) : Prop where
  names : ∀ x ∈ d.entries, ∀ name ∈ x.1, Storable name
  links : ∀ x ∈ d.entries, ∀ target ∈ x.2.target?, target.hasNul = false

instance (d : Disk) : Decidable d.WellNamed :=
  decidable_of_iff ((∀ x ∈ d.entries, ∀ name ∈ x.1, Storable name) ∧
    ∀ x ∈ d.entries, ∀ target ∈ x.2.target?, target.hasNul = false)
    ⟨fun ⟨names, links⟩ => ⟨names, links⟩, fun ⟨names, links⟩ => ⟨names, links⟩⟩

variable {d : Disk} {m m' : Manner} {links : Nat} {loc dir : Location} {name other : String}
  {steps front back back' rest : List Step} {slot slot' : Slot} {e : Entry} {p target : Path}

namespace WellNamed

theorem storable (hd : d.WellNamed) (h : d.get? loc = some e) : ∀ name ∈ loc, Storable name := by
  cases loc with
  | nil => exact fun name hname => absurd hname List.not_mem_nil
  | cons name dir => exact hd.names _ (mem_entries_of_get? h (List.cons_ne_nil name dir))

/-- The path of something on the disk holds no NUL. -/
theorem hasNul_ofLocation (hd : d.WellNamed) (h : d.get? loc = some e) :
    (Path.ofLocation loc).hasNul = false := by
  cases loc with
  | nil => decide
  | cons name dir =>
    have hnames : ∀ s ∈ (name :: dir).reverse, '\x00' ∉ s.toList := fun s hs =>
      (hd.storable h s (List.mem_reverse.mp hs)).1
    have hroot : '\x00' ∉ "".toList := by decide
    exact Path.hasNul_eq_false_iff.mpr (List.forall_mem_cons.mpr ⟨hroot, hnames⟩)

end WellNamed

/-! ## The last name -/

namespace Manner

/-- Whether a name is the last one does not depend on the manner unless only slashes follow. -/
theorem lastName?_of_ne_slash (h : rest ≠ [.slash]) :
    m.lastName? rest = if rest = [] then some false else none := by
  unfold lastName?
  split
  · rfl
  · exact absurd rfl h
  · next hnil _ => rw [if_neg hnil]

theorem lastName?_eq_none (h : rest.getLast? = some (.down name)) : m.lastName? rest = none := by
  rw [lastName?_of_ne_slash, if_neg]
  · rintro rfl
    cases h
  · rintro rfl
    cases h

theorem admits_of_storable (hspelled : m.spelled = false) (h : Storable name) :
    m.admits dir name = true := by
  rw [admits, hspelled, decide_eq_true h.2]
  rfl

theorem admits_spelled (h : m.admits dir name = true)
    (hlength : (Path.ofLocation (name :: dir)).byteLength ≤ maxPathLength) :
    Manner.admits { m with spelled := true } dir name = true := by
  rw [admits, (Bool.and_eq_true_iff.mp h).1, decide_eq_true hlength]
  rfl

theorem eq_nil_of_lastName? (h : m.lastName? rest = some false) : rest = [] := by
  unfold lastName? at h
  split at h
  · rfl
  · split at h
    · cases h
    · cases h
  · cases h

end Manner

namespace Reaches

/-- The last step of a walk that ends at a name goes down, and to that name unless links at the end
are followed. -/
theorem getLast?_steps (h : Reaches d m links loc steps (.name dir name false)) :
    ∃ last, steps.getLast? = some (.down last) ∧ (m.follow = false → last = name) := by
  generalize hslot : Slot.name dir name false = slot at h
  induction h with
  | arrive => cases hslot
  | keep hlast => cases hslot
  | here _ ih | slash _ ih | up _ ih | enter _ _ _ _ ih =>
    obtain ⟨last, hlast, hname⟩ := ih hslot
    exact ⟨last, by rw [List.getLast?_cons, hlast, Option.getD_some], hname⟩
  | @stop links loc other rest hlast hadmits hlink =>
    cases hslot
    obtain rfl := Manner.eq_nil_of_lastName? hlast
    exact ⟨name, rfl, fun _ => rfl⟩
  | @follow links loc other rest slot target hlast hadmits hget hgo h ih =>
    obtain ⟨last, hlast, hname⟩ := ih hslot
    rw [List.getLast?_append] at hlast
    rw [List.getLast?_cons]
    cases hrest : rest.getLast? with
    | none =>
      obtain rfl := List.getLast?_eq_none_iff.mp hrest
      refine ⟨other, rfl, fun hstay => ?_⟩
      exact nomatch hstay.symm.trans (hgo rfl)
    | some step =>
      rw [hrest, Option.some_or] at hlast
      exact ⟨last, hlast, hname⟩

/-- A path that is walked to a name without following a link there ends in that name. -/
theorem exists_front (h : Reaches d m links loc p.steps (.name dir name false))
    (hfollow : m.follow = false) : ∃ front, p.segments = front ++ [name] ∧ IsName name := by
  obtain ⟨last, hlast, hsame⟩ := h.getLast?_steps
  obtain rfl := hsame hfollow
  obtain ⟨init, hinit⟩ := List.getLast?_eq_some_iff.mp hlast
  obtain ⟨front, hsegments, -, hname⟩ := Path.exists_front hinit
  exact ⟨front, hsegments, hname⟩

/-- Slashes are never all that is left of a walk that ends at a name. -/
theorem ne_slash (h : Reaches d m links loc (.down other :: rest) (.name dir name false)) :
    rest ≠ [.slash] := by
  rintro rfl
  obtain ⟨last, hlast, -⟩ := h.getLast?_steps
  cases hlast

/-- A walk that ends at a name does so in any manner that follows the same links and asks for no
more, whatever becomes of slashes. -/
theorem in_manner (h : Reaches d m links loc steps (.name dir name false))
    (hspelled : m'.spelled = true → m.spelled = true)
    (hfollow : m.follow = true → m'.follow = true)
    (hlink : m'.follow = true → ∀ target, d.get? (name :: dir) ≠ some (.link target)) :
    Reaches d m' links loc steps (.name dir name false) := by
  generalize hslot : Slot.name dir name false = slot at h
  have hsame {rest : List Step} {other : String} {links : Nat} {loc : Location}
      (h : Reaches d m links loc (.down other :: rest) slot) :
      m'.lastName? rest = m.lastName? rest := by
    have hne : rest ≠ [.slash] := (hslot ▸ h).ne_slash
    rw [Manner.lastName?_of_ne_slash hne, Manner.lastName?_of_ne_slash hne]
  induction h with
  | arrive => exact .arrive
  | here _ ih => exact .here (ih hslot hsame)
  | slash _ ih => exact .slash (ih hslot hsame)
  | up _ ih => exact .up (ih hslot hsame)
  | keep hlast => cases hslot
  | @stop links _ _ _ hlast hadmits hstay =>
    cases hslot
    have hstop : Reaches d m links dir _ _ := .stop hlast hadmits hstay
    exact .stop ((hsame hstop).trans hlast) (Manner.admits_mono hspelled hadmits) hlink
  | follow hlast hadmits hget hgo h ih =>
    have heq := hsame (.follow hlast hadmits hget hgo h)
    refine .follow (heq ▸ hlast) (Manner.admits_mono hspelled hadmits) hget ?_ (ih hslot hsame)
    rw [heq]
    exact fun hsome => hfollow (hgo hsome)
  | enter hlast hadmits hget h ih =>
    have heq := hsame (.enter hlast hadmits hget h)
    exact .enter (heq.trans hlast) (Manner.admits_mono hspelled hadmits) hget (ih hslot hsame)

/-- A walk that follows links ends at a name that it would have stopped at anyway, or it would have
stopped at a link. -/
theorem exists_link (h : Reaches d m links loc steps (.name dir name false)) :
    Reaches d { m with follow := false } links loc steps (.name dir name false) ∨
      ∃ dir' other target,
        Reaches d { m with follow := false } links loc steps (.name dir' other false) ∧
          d.get? (other :: dir') = some (.link target) := by
  generalize hslot : Slot.name dir name false = slot at h
  induction h with
  | arrive => cases hslot
  | keep hlast => cases hslot
  | here _ ih =>
    rcases ih hslot with h | ⟨dir', other, target, h, hget⟩
    · exact .inl (.here h)
    · exact .inr ⟨dir', other, target, .here h, hget⟩
  | slash _ ih =>
    rcases ih hslot with h | ⟨dir', other, target, h, hget⟩
    · exact .inl (.slash h)
    · exact .inr ⟨dir', other, target, .slash h, hget⟩
  | up _ ih =>
    rcases ih hslot with h | ⟨dir', other, target, h, hget⟩
    · exact .inl (.up h)
    · exact .inr ⟨dir', other, target, .up h, hget⟩
  | stop hlast hadmits hlink => exact .inl (.stop hlast hadmits nofun)
  | @follow links loc name rest slot target hlast hadmits hget hgo h ih =>
    cases hrest : m.lastName? rest with
    | some slash =>
      -- The link is the last name, and without following it the walk ends here.
      have hstop : m.lastName? rest = some false :=
        Manner.lastName?_eq_some_false (by rw [hrest]; rfl) hlast
      exact .inr ⟨loc, name, target, .stop hstop hadmits nofun, hget⟩
    | none =>
      have hgo' : (m.lastName? rest).isSome = true →
          ({ m with follow := false } : Manner).follow = true := by
        rw [hrest]
        exact nofun
      rcases ih hslot with h | ⟨dir', other, target', h, hget'⟩
      · exact .inl (.follow hlast hadmits hget hgo' h)
      · exact .inr ⟨dir', other, target', .follow hlast hadmits hget hgo' h, hget'⟩
  | enter hlast hadmits hget _ ih =>
    rcases ih hslot with h | ⟨dir', other, target, h, hget'⟩
    · exact .inl (.enter hlast hadmits hget h)
    · exact .inr ⟨dir', other, target, .enter hlast hadmits hget h, hget'⟩

/-! ## Another end -/

/-- The end of a walk can be exchanged for one that goes on alike from wherever the front leads. -/
theorem append_congr {last last' : String} (hback : back.getLast? = some (.down last))
    (hback' : back'.getLast? = some (.down last'))
    (hsame : ∀ links loc, Reaches d m links loc back slot → Reaches d m links loc back' slot')
    (links : Nat) (loc : Location) (front : List Step)
    (h : Reaches d m links loc (front ++ back) slot) :
    Reaches d m links loc (front ++ back') slot' := by
  match front with
  | [] => exact hsame links loc h
  | .here :: front =>
    cases h with
    | here h => exact .here (append_congr hback hback' hsame _ _ _ h)
  | .slash :: front =>
    cases h with
    | slash h => exact .slash (append_congr hback hback' hsame _ _ _ h)
  | .up :: front =>
    cases h with
    | up h => exact .up (append_congr hback hback' hsame _ _ _ h)
  | .down name :: front =>
    -- Neither end begins with the last name, so with both of them the walk goes on here.
    have hnone : m.lastName? (front ++ back) = none :=
      Manner.lastName?_eq_none (by rw [List.getLast?_append, hback, Option.some_or])
    have hnone' : m.lastName? (front ++ back') = none :=
      Manner.lastName?_eq_none (by rw [List.getLast?_append, hback', Option.some_or])
    cases h with
    | keep hlast => exact nomatch hnone.symm.trans hlast
    | stop hlast hadmits hlink => exact nomatch hnone.symm.trans hlast
    | @follow links _ _ _ _ target hlast hadmits hget hgo h =>
      have hrest : Reaches d m links (origin loc target) (target.steps ++ front ++ back) slot := by
        rw [List.append_assoc]
        exact h
      have hother := append_congr hback hback' hsame _ _ _ hrest
      rw [List.append_assoc] at hother
      have hlast' : m.lastName? (front ++ back') ≠ some true := by
        rw [hnone']
        nofun
      have hgo' : (m.lastName? (front ++ back')).isSome = true → m.follow = true := by
        rw [hnone']
        nofun
      exact .follow hlast' hadmits hget hgo' hother
    | enter hlast hadmits hget h =>
      exact .enter hnone' hadmits hget (append_congr hback hback' hsame _ _ _ h)
termination_by (links, front.length)

theorem replicate_here_iff {n : Nat} :
    Reaches d m links loc (List.replicate n .here ++ rest) slot ↔
      Reaches d m links loc rest slot := by
  induction n with
  | zero => rfl
  | succ n ih =>
    rw [List.replicate_succ, List.cons_append, ← ih]
    constructor
    · rintro (_ | h)
      exact h
    · exact .here

/-- With another last name a walk ends beside where it ended. -/
theorem beside {n : Nat} (n' : Nat) (hfollow : m.follow = false)
    (hadmits : m.admits dir other = true)
    (h : Reaches d m links loc (front ++ (List.replicate n .here ++ [.down name]))
      (.name dir name false)) :
    Reaches d m links loc (front ++ (List.replicate n' .here ++ [.down other]))
      (.name dir other false) := by
  refine append_congr List.getLast?_concat List.getLast?_concat ?_ links loc front h
  intro links loc h
  rw [replicate_here_iff] at h ⊢
  cases h with
  | stop hlast _ _ => exact .stop rfl hadmits (by rw [hfollow]; nofun)
  | follow _ _ _ hgo _ => exact nomatch hfollow.symm.trans (hgo rfl)
  | enter hlast _ _ _ => cases hlast

/-- The way down to a directory can be put in front of a walk that begins there. -/
theorem descend {last : String} (hd : d.WellFormed) (hnamed : d.WellNamed)
    (hspelled : m.spelled = false) (hloc : d.IsDirectory loc)
    (hrest : rest.getLast? = some (.down last)) (h : Reaches d m links loc rest slot) :
    Reaches d m links [] (loc.reverse.map .down ++ rest) slot := by
  induction loc generalizing rest with
  | nil => exact h
  | cons name dir ih =>
    obtain ⟨mode, hmode⟩ := hloc
    have hname : Storable name := hnamed.storable hmode name List.mem_cons_self
    rw [List.reverse_cons, List.map_append, List.append_assoc]
    refine ih (hd.isDirectory_tail hmode) ?_ (.enter (Manner.lastName?_eq_none hrest)
      (Manner.admits_of_storable hspelled hname) hmode h)
    rw [List.map_singleton, List.singleton_append, List.getLast?_cons, hrest, Option.getD_some]

/-- The path of what stands at a name leads there. -/
theorem of_ofLocation (hd : d.WellFormed) (hnamed : d.WellNamed) (hspelled : m.spelled = false)
    (hfollow : m.follow = false) (hget : d.get? (name :: dir) = some e) :
    Reaches d m links (origin loc (Path.ofLocation (name :: dir)))
      (Path.ofLocation (name :: dir)).steps (.name dir name false) := by
  have hname : Storable name := hnamed.storable hget name List.mem_cons_self
  have hroot : origin loc (Path.ofLocation (name :: dir)) = [] :=
    if_pos (Path.isAbsolute_ofLocation _)
  rw [hroot, Path.steps_ofLocation (hd.isName hget), List.reverse_cons, List.map_append]
  refine descend hd hnamed hspelled (hd.isDirectory_tail hget) rfl
    (.stop rfl (Manner.admits_of_storable hspelled hname) ?_)
  rw [hfollow]
  exact nofun

/-- A walk ends in one place. -/
theorem unique (h : Reaches d m links loc steps slot) (h' : Reaches d m links loc steps slot') :
    slot = slot' :=
  Except.ok.inj ((walk_of_reaches h).symm.trans (walk_of_reaches h'))

/-! ## Limits -/

/-- Where no path is too long, asking for every name by its whole path makes no difference. -/
theorem spelled
    (hlimit : ∀ loc e, d.get? loc = some e → (Path.ofLocation loc).byteLength ≤ maxPathLength)
    (hslot : ∀ dir name, slot = .name dir name false → ∃ e, d.get? (name :: dir) = some e)
    (h : Reaches d m links loc steps slot) :
    Reaches d { m with spelled := true } links loc steps slot := by
  induction h with
  | arrive => exact .arrive
  | here _ ih => exact .here (ih hslot)
  | slash _ ih => exact .slash (ih hslot)
  | up _ ih => exact .up (ih hslot)
  | keep hlast => exact .keep hlast
  | stop hlast hadmits hlink =>
    obtain ⟨e, hget⟩ := hslot _ _ rfl
    exact .stop hlast (Manner.admits_spelled hadmits (hlimit _ e hget)) hlink
  | follow hlast hadmits hget hgo _ ih =>
    exact .follow hlast (Manner.admits_spelled hadmits (hlimit _ _ hget)) hget hgo (ih hslot)
  | enter hlast hadmits hget _ ih =>
    exact .enter hlast (Manner.admits_spelled hadmits (hlimit _ _ hget)) hget (ih hslot)

end Reaches

/-! ## Resolving a path -/

theorem checkText_eq_ok_iff :
    checkText p = .ok () ↔
      p.hasNul = false ∧ p.isEmpty = false ∧ p.byteLength ≤ maxPathLength := by
  unfold checkText
  cases p.hasNul with
  | true => simp
  | false =>
    cases p.isEmpty with
    | true => simp
    | false =>
      by_cases hlength : maxPathLength < p.byteLength
      · simp [hlength]
      · simp [hlength, Nat.le_of_not_lt hlength]

theorem isLink_eq_true (h : d.isLink p = true) :
    checkText p = .ok () ∧ ∃ slot loc target,
      Reaches d .toEntry maxLinks (origin d.cwd p) p.steps slot ∧
        d.occupied slot = .ok (loc, .link target) := by
  unfold isLink at h
  split at h
  · next loc target hfound =>
    obtain ⟨slot, hslot, hlink⟩ := bind_eq_ok.mp hfound
    obtain ⟨htext, hreach⟩ := resolve_eq_ok hslot
    exact ⟨htext, slot, loc, target, hreach, hlink⟩
  · cases h

theorem text_of_canonical (h : d.canonical p = .ok (loc, e)) :
    p.hasNul = false ∧ p.isEmpty = false := by
  unfold canonical at h
  split at h
  · cases h
  · next hnul =>
    split at h
    · cases h
    · next hempty => exact ⟨eq_false_of_ne_true hnul, eq_false_of_ne_true hempty⟩

theorem canonical_of_reaches (hnul : p.hasNul = false) (hempty : p.isEmpty = false)
    (h : Reaches d .toCanonical maxLinks (origin d.cwd p) p.steps slot)
    (hfound : d.occupied slot = .ok (loc, e))
    (hlength : (Path.ofLocation loc).byteLength ≤ maxPathLength) :
    d.canonical p = .ok (loc, e) := by
  unfold canonical
  rw [hnul, hempty, if_neg Bool.false_ne_true, if_neg Bool.false_ne_true, walk_of_reaches h]
  show (d.occupied slot >>= _) = _
  rw [hfound]
  exact if_neg (Nat.not_lt.mpr hlength)

theorem createFile_of_reaches (permissions : Nat) (htext : checkText p = .ok ())
    (h : Reaches d .toReplace maxLinks (origin d.cwd p) p.steps (.name dir name false)) :
    d.createFile p permissions = if (d.get? (name :: dir)).isSome then .error .alreadyExists
      else .ok (name :: dir, d.freshNumber, d.insert (name :: dir) (d.newFile permissions [])) := by
  unfold createFile
  rw [resolve_of_reaches htext h]
  rfl

theorem moveFile_of_reaches {source : Location} (htext : checkText p = .ok ())
    (h : Reaches d .toReplace maxLinks (origin d.cwd p) p.steps (.name dir name false))
    (hsource : d.get? source = some e) (hdirectory : ¬ d.IsDirectory (name :: dir)) :
    d.moveFile source p = .ok ((d.erase source).insert (name :: dir) e) := by
  unfold moveFile
  rw [resolve_of_reaches htext h]
  cases htarget : d.get? (name :: dir) with
  | none =>
    simp only [bind, Except.bind, hsource, htarget, Bool.false_eq_true, if_false]
    rfl
  | some old =>
    cases old with
    | directory mode => exact absurd ⟨mode, htarget⟩ hdirectory
    | _ =>
      simp only [bind, Except.bind, hsource, htarget, Bool.false_eq_true, if_false]
      rfl

/-- What opening does at the name where the path leads: a file loses its bytes, a device stays as it
is, and a new file is made where nothing was. -/
theorem openEmptied_of_reaches (htext : checkText p = .ok ())
    (h : Reaches d .toTarget maxLinks (origin d.cwd p) p.steps (.name dir name false)) :
    (∀ number mode old, d.get? (name :: dir) = some (.file number mode old) →
        d.openEmptied p = .ok (.file number, d.changeFile number (Entry.withBytes []))) ∧
      (∀ dev, d.get? (name :: dir) = some (.device dev) →
        d.openEmptied p = .ok (.device dev, d)) ∧
      (d.get? (name :: dir) = none →
        d.openEmptied p =
          .ok (.file d.freshNumber, d.insert (name :: dir) (d.newFile openedPermissions []))) := by
  have hopen : d.resolve .toOpen p = .ok (.name dir name false) :=
    resolve_of_reaches htext (h.in_manner nofun (fun _ => rfl) fun _ => h.get?_ne_link rfl)
  unfold openEmptied
  rw [hopen]
  refine ⟨?_, ?_, ?_⟩
  · intro number mode old hget
    simp only [bind, Except.bind, hget, Bool.false_eq_true, if_false]
    rfl
  · intro dev hget
    simp only [bind, Except.bind, hget, Bool.false_eq_true, if_false]
    rfl
  · intro hget
    simp only [bind, Except.bind, hget, Bool.false_eq_true, if_false]
    rfl

/-! ## Putting a file -/

section Insert

variable (hdir : d.IsDirectory dir) (hold : ¬ d.IsDirectory (name :: dir))

include hold in
theorem IsDirectory.insert (hloc : d.IsDirectory loc) :
    (d.insert (name :: dir) e).IsDirectory loc := by
  have hne : loc ≠ name :: dir := by
    rintro rfl
    exact hold hloc
  obtain ⟨mode, hmode⟩ := hloc
  exact ⟨mode, (get?_insert_of_ne d e hne).trans hmode⟩

include hdir hold in
/-- A disk stays well formed if something that is no directory is put into a directory. -/
theorem WellFormed.insert (hd : d.WellFormed) (hname : IsName name) :
    (d.insert (name :: dir) e).WellFormed where
  cwd := hd.cwd.insert hold
  around := by
    intro x hx
    rcases List.mem_cons.mp hx with rfl | hx
    · exact hdir.insert hold
    · exact (hd.around x (List.mem_filter.mp hx).1).insert hold
  named := by
    intro x hx
    rcases List.mem_cons.mp hx with rfl | hx
    · obtain ⟨mode, hmode⟩ := hdir
      exact List.forall_mem_cons.mpr ⟨hname, hd.isName hmode⟩
    · exact hd.named x (List.mem_filter.mp hx).1

include hdir in
theorem WellNamed.insert (hnamed : d.WellNamed) (hname : Storable name) (he : e.target? = none) :
    (d.insert (name :: dir) e).WellNamed where
  names := by
    intro x hx
    rcases List.mem_cons.mp hx with rfl | hx
    · obtain ⟨mode, hmode⟩ := hdir
      exact List.forall_mem_cons.mpr ⟨hname, hnamed.storable hmode⟩
    · exact hnamed.names x (List.mem_filter.mp hx).1
  links := by
    intro x hx
    rcases List.mem_cons.mp hx with rfl | hx
    · rw [he]
      exact nofun
    · exact hnamed.links x (List.mem_filter.mp hx).1

end Insert

end Disk

end TtyGuard
