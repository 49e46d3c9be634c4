/-
# TtyGuard.Proofs.Artifact.Staging — a staged file finds its place

The bytes for a target are gathered in a file of another name in the same directory.  That file's
path is put together from the text of the target, while the target itself is reached by the kernel's
steps; `reaches_stagedPath` says that the two meet: whenever the target is reached at a name, the
staged path is reached beside it.  What can still go wrong with it is a matter of lengths and of
names that are taken, and with neither (`HasRoom`, `Fresh`) a replacement succeeds wherever the
target could be replaced at all (`replace_eq_ok_of_room`).
-/
import TtyGuard.Proofs.Artifact.Effect
import TtyGuard.Proofs.Disk.Beside

namespace TtyGuard.Artifact

open Disk (Manner Reaches SameWays maxLinks maxNameLength maxPathLength origin)
open TtyGuard.Path (Step stepsOf)

variable {d : Disk} {draws : List String} {p target : Path} {name token : String}
  {front : List String} {bytes : List UInt8} {dir loc : Location}

/-! ## Names -/

/-- The random part of a staged file's name: six letters or digits. -/
def IsToken (token : String) : Prop :=
  token.utf8ByteSize = 6 ∧ ∀ c ∈ token.toList, c.isAlphanum = true

instance (token : String) : Decidable (IsToken token) :=
  decidable_of_iff (token.utf8ByteSize = 6 ∧ token.toList.all Char.isAlphanum = true)
    (and_congr_right fun _ => List.all_eq_true)

theorem utf8ByteSize_stagedName (name token : String) :
    (stagedName name token).utf8ByteSize = name.utf8ByteSize + token.utf8ByteSize + 6 := by
  have hpoint : ".".utf8ByteSize = 1 := rfl
  have htail : ".tmp".utf8ByteSize = 4 := rfl
  show ("." ++ name ++ "." ++ token ++ ".tmp").utf8ByteSize = _
  simp only [String.utf8ByteSize_append, hpoint, htail]
  omega

theorem isName_stagedName (name token : String) : IsName (stagedName name token) := by
  have hshort {other : String} (h : other.utf8ByteSize < 6) : stagedName name token ≠ other := by
    rintro rfl
    rw [utf8ByteSize_stagedName] at h
    omega
  exact ⟨hshort (by decide), hshort (by decide), hshort (by decide)⟩

theorem storable_stagedName (hname : '\x00' ∉ name.toList) (htoken : IsToken token)
    (hroom : name.utf8ByteSize + 12 ≤ maxNameLength) : Storable (stagedName name token) := by
  constructor
  · have hnul : '\x00' ∉ token.toList := fun hmem => nomatch htoken.2 _ hmem
    show '\x00' ∉ ("." ++ name ++ "." ++ token ++ ".tmp").toList
    simp [hname, hnul]
  · rw [utf8ByteSize_stagedName, htoken.1]
    omega

/-! ## Paths -/

/-- The segments of a staged path: those of the working directory, if the target is relative, those
of the target's parent, and the name. -/
theorem segments_stagedPath (d : Disk) (h : target.segments = front ++ [name])
    (hname : IsName name) :
    ∃ before beside, (∀ token, (stagedPath d target name token).segments =
        before ++ beside ++ [stagedName name token]) ∧
      stepsOf before = (if target.isAbsolute then [] else stepsOf (Path.ofLocation d.cwd).segments) ∧
      stepsOf beside = stepsOf target.parent.segments ∧
      (∀ s ∈ before, s ∈ (Path.ofLocation d.cwd).segments) ∧
      ∀ s ∈ beside, s ∈ target.parent.segments := by
  obtain ⟨beside, hbeside, hsteps, hmem⟩ := Path.segments_under target.parent
  have hbegin (token : String) :
      (target.parent.under ⟨stagedName name token, []⟩).isAbsolute = target.isAbsolute :=
    (Path.isAbsolute_under (Path.isEmpty_parent target)).trans (Path.isAbsolute_parent h hname)
  unfold stagedPath
  simp only [hbegin]
  split
  · exact ⟨[], beside, fun _ => hbeside _, rfl, hsteps, nofun, hmem⟩
  · obtain ⟨before, hbefore, hsteps', hmem'⟩ := Path.segments_under (Path.ofLocation d.cwd)
    refine ⟨before, beside, fun token => ?_, hsteps', hsteps, hmem', hmem⟩
    rw [hbefore, hbeside, List.append_assoc]
    rfl

theorem isAbsolute_stagedPath (d : Disk) (target : Path) (name token : String) :
    (stagedPath d target name token).isAbsolute = true := by
  unfold stagedPath
  dsimp only
  split
  · next habsolute => exact habsolute
  · have hroot := Path.isAbsolute_ofLocation d.cwd
    rw [Path.isAbsolute_under (Path.isEmpty_of_isAbsolute hroot), hroot]

/-- A staged path is one that the kernel takes if it is not too long. -/
theorem checkText_stagedPath (hnamed : d.WellNamed) (hd : d.WellFormed)
    (h : target.segments = front ++ [name]) (hname : IsName name) (hnul : target.hasNul = false)
    (hstaged : Storable (stagedName name token))
    (hlength : (stagedPath d target name token).byteLength ≤ maxPathLength) :
    Disk.checkText (stagedPath d target name token) = .ok () := by
  have hempty := Path.isEmpty_of_isAbsolute (isAbsolute_stagedPath d target name token)
  refine Disk.checkText_eq_ok_iff.mpr ⟨Path.hasNul_eq_false_iff.mpr ?_, hempty, hlength⟩
  obtain ⟨before, beside, hsegments, -, -, hbefore, hbeside⟩ :=
    segments_stagedPath d h hname
  rw [hsegments]
  intro s hs
  rcases List.mem_append.mp hs with hs | hs
  · rcases List.mem_append.mp hs with hs | hs
    · obtain ⟨mode, hmode⟩ := hd.cwd
      exact Path.hasNul_eq_false_iff.mp (hnamed.hasNul_ofLocation hmode) s (hbefore s hs)
    · rcases Path.mem_segments_parent h hname (hbeside s hs) with rfl | rfl | hs
      · decide
      · decide
      · exact Path.hasNul_eq_false_iff.mp hnul s hs
  · obtain rfl := List.mem_singleton.mp hs
    exact hstaged.1

/-- A staged path is reached beside the target. -/
theorem reaches_stagedPath (hd : d.WellFormed) (hnamed : d.WellNamed)
    (h : target.segments = front ++ [name]) (hname : IsName name)
    (hstaged : Storable (stagedName name token))
    (hreach : Reaches d .toReplace maxLinks (origin d.cwd target) target.steps
      (.name dir name false)) :
    Reaches d .toReplace maxLinks (origin d.cwd (stagedPath d target name token))
      (stagedPath d target name token).steps (.name dir (stagedName name token) false) := by
  obtain ⟨init, n, n', hfront, hparent⟩ := Path.steps_parent h hname
  obtain ⟨before, beside, hsegments, hbefore, hbeside, -, -⟩ := segments_stagedPath d h hname
  have hsteps : (stagedPath d target name token).steps =
      stepsOf before ++ (init ++ (List.replicate n' .here ++ [.down (stagedName name token)])) := by
    rw [Path.steps_of_concat (hsegments token) (isName_stagedName name token),
      Path.stepsOf_append, hbeside, hparent]
    simp only [List.append_assoc]
  -- In the target's directory the walk can end at the other name.
  have hthere : Reaches d .toReplace maxLinks (origin d.cwd target)
      (init ++ (List.replicate n' .here ++ [.down (stagedName name token)]))
      (.name dir (stagedName name token) false) := by
    rw [Path.steps_of_concat h hname, hfront, List.append_assoc] at hreach
    exact hreach.beside n' rfl (Manner.admits_of_storable rfl hstaged)
  have hroot : origin d.cwd (stagedPath d target name token) = [] :=
    if_pos (isAbsolute_stagedPath d target name token)
  rw [hroot, hsteps, hbefore]
  unfold origin at hthere
  split
  · next habsolute =>
    rw [if_pos habsolute] at hthere
    exact hthere
  · next hrelative =>
    rw [if_neg hrelative] at hthere
    obtain ⟨mode, hmode⟩ := hd.cwd
    rw [Path.stepsOf_ofLocation (hd.isName hmode)]
    have hlast : (init ++ (List.replicate n' Step.here ++
        [Step.down (stagedName name token)])).getLast? = some (.down (stagedName name token)) := by
      rw [← List.append_assoc, List.getLast?_concat]
    exact hthere.descend hd hnamed rfl hd.cwd hlast

/-! ## Replacing -/

/-- One of the paths is free, and nothing else is wrong with the others. -/
theorem stage_eq_ok_of_free {paths : List Path}
    (htried : ∀ path ∈ paths, d.createFile path stagedPermissions = .error .alreadyExists ∨
      ∃ made, d.createFile path stagedPermissions = .ok made)
    (hfree : ∃ path ∈ paths, d.createFile path stagedPermissions ≠ .error .alreadyExists) :
    ∃ made, stage d paths = .ok made := by
  induction paths with
  | nil =>
    obtain ⟨path, hpath, -⟩ := hfree
    exact absurd hpath List.not_mem_nil
  | cons first paths ih =>
    rw [stage]
    rcases htried first List.mem_cons_self with htaken | ⟨made, hmade⟩
    · rw [htaken]
      refine ih (fun path hpath => htried path (List.mem_cons_of_mem _ hpath)) ?_
      obtain ⟨path, hpath, hother⟩ := hfree
      rcases List.mem_cons.mp hpath with rfl | hpath
      · exact absurd htaken hother
      · exact ⟨path, hpath, hother⟩
    · rw [hmade]
      exact ⟨_, rfl⟩

/-- Unless something hinders it, a replacement succeeds if the staged file can be made and the
target can be replaced.  The bytes do not matter. -/
theorem replace_eq_ok_iff :
    (replace {} d draws p target bytes).result = .ok () ↔
      (∃ name made, target.fileName? = some name ∧
        stage d (draws.map (stagedPath d target name)) = .ok made) ∧
      Disk.checkText target = .ok () ∧
      ∃ dir name, Reaches d .toReplace maxLinks (origin d.cwd target) target.steps
        (.name dir name false) ∧ ¬ d.IsDirectory (name :: dir) := by
  constructor
  · intro h
    obtain ⟨dir, name, htext, hreach, hdirectory, -⟩ := replace_eq_ok h
    refine ⟨?_, htext, dir, name, hreach, hdirectory⟩
    unfold replace at h
    cases hname : target.fileName? with
    | none =>
      rw [hname] at h
      cases h
    | some name =>
      rw [hname] at h
      dsimp only [attempt, Option.elim_none] at h
      cases hstaged : stage d (draws.map (stagedPath d target name)) with
      | error cause =>
        rw [hstaged] at h
        cases h
      | ok made => exact ⟨name, made, rfl, hstaged⟩
  · rintro ⟨⟨last, ⟨path, loc, number, staged⟩, hname, hstaged⟩, htext, dir, name, hreach,
      hdirectory⟩
    obtain ⟨hloc, hfree, rfl, rfl⟩ := stage_eq_ok hstaged
    have hways : SameWays d (d.insert loc (d.newFile stagedPermissions bytes)) :=
      Disk.sameWays_insert_of_none hloc hfree rfl
    have hmoved : (d.insert loc (d.newFile stagedPermissions bytes)).moveFile loc target =
        .ok (((d.insert loc (d.newFile stagedPermissions bytes)).erase loc).insert (name :: dir)
          (d.newFile stagedPermissions bytes)) := by
      refine Disk.moveFile_of_reaches htext (hreach.congr hways) (Disk.get?_insert_self d _ hloc) ?_
      rintro ⟨mode, hmode⟩
      exact hdirectory ⟨mode, (hways.get?_eq_some rfl).mpr hmode⟩
    unfold replace
    simp only [hname, attempt, Option.elim_none, hstaged, fill, Disk.write_insert_newFile, hmoved]

/-- The random tokens for a staged file have the right form, and with one of them its name is not
taken. -/
structure Fresh (d : Disk) (draws : List String) (p : Path) : Prop where
  tokens : ∀ token ∈ draws, IsToken token
  free : ∀ target name, destination d p = .replace target → target.fileName? = some name →
    ∃ token ∈ draws,
      d.createFile (stagedPath d target name token) stagedPermissions ≠ .error .alreadyExists

/-- Neither the name of a staged file nor its path is too long. -/
structure HasRoom (d : Disk) (draws : List String) (p : Path) : Prop where
  name : ∀ target name, destination d p = .replace target → target.fileName? = some name →
    name.utf8ByteSize + 12 ≤ maxNameLength
  path : ∀ target name, destination d p = .replace target → target.fileName? = some name →
    ∀ token ∈ draws, (stagedPath d target name token).byteLength ≤ maxPathLength

section Destination

variable (hdestination : destination d p = .replace target) (hfile : target.fileName? = some name)

include hdestination hfile

theorem eq_of_destination {target' : Path} {name' : String} (h : destination d p = .replace target')
    (hname : target'.fileName? = some name') : target' = target ∧ name' = name := by
  cases hdestination.symm.trans h
  exact ⟨rfl, Option.some.inj (hname.symm.trans hfile)⟩

theorem Fresh.of_destination (htokens : ∀ token ∈ draws, IsToken token)
    (hfree : ∃ token ∈ draws,
      d.createFile (stagedPath d target name token) stagedPermissions ≠ .error .alreadyExists) :
    Fresh d draws p where
  tokens := htokens
  free := by
    intro target' name' h hname
    obtain ⟨rfl, rfl⟩ := eq_of_destination hdestination hfile h hname
    exact hfree

theorem HasRoom.of_destination (hsize : name.utf8ByteSize + 12 ≤ maxNameLength)
    (hlength : ∀ token ∈ draws, (stagedPath d target name token).byteLength ≤ maxPathLength) :
    HasRoom d draws p where
  name := by
    intro target' name' h hname
    obtain ⟨rfl, rfl⟩ := eq_of_destination hdestination hfile h hname
    exact hsize
  path := by
    intro target' name' h hname
    obtain ⟨rfl, rfl⟩ := eq_of_destination hdestination hfile h hname
    exact hlength

/-- A staged file has both if its path leads to a free name. -/
theorem hasRoom_and_fresh {staged : Path} {other : String} (htoken : IsToken token)
    (hsize : name.utf8ByteSize + 12 ≤ maxNameLength)
    (hstaged : stagedPath d target name token = staged) (htext : Disk.checkText staged = .ok ())
    (hslot : Reaches d .toReplace maxLinks (origin d.cwd staged) staged.steps
      (.name dir other false)) (hfree : d.get? (other :: dir) = none) :
    HasRoom d [token] p ∧ Fresh d [token] p := by
  subst hstaged
  constructor
  · exact .of_destination hdestination hfile hsize
      (List.forall_mem_singleton.mpr (Disk.checkText_eq_ok_iff.mp htext).2.2)
  · refine .of_destination hdestination hfile (List.forall_mem_singleton.mpr htoken)
      ⟨token, List.mem_cons_self, ?_⟩
    rw [Disk.createFile_of_reaches _ htext hslot, hfree]
    exact nofun

end Destination

/-- With room and a fresh name, what can be replaced is replaced. -/
theorem replace_eq_ok_of_room (hd : d.WellFormed) (hnamed : d.WellNamed) (hfresh : Fresh d draws p)
    (hroom : HasRoom d draws p) (hdestination : destination d p = .replace target)
    (htext : Disk.checkText target = .ok ())
    (hreach : Reaches d .toReplace maxLinks (origin d.cwd target) target.steps
      (.name dir name false)) (hdirectory : ¬ d.IsDirectory (name :: dir)) :
    (replace {} d draws p target bytes).result = .ok () ∧
      (replace {} d draws p target bytes).disk =
        d.insert (name :: dir) (d.newFile stagedPermissions bytes) := by
  -- The walk does not follow a link at its end, so it ends at the last name of the text.
  obtain ⟨front, hsegments, hname⟩ := hreach.exists_front rfl
  have hfile : target.fileName? = some name := Path.fileName?_of_concat hsegments hname
  have hnul : target.hasNul = false := (Disk.checkText_eq_ok_iff.mp htext).1
  have hnamenul : '\x00' ∉ name.toList := by
    refine Path.hasNul_eq_false_iff.mp hnul name ?_
    rw [hsegments]
    exact List.mem_append_right _ List.mem_cons_self
  have htried (token : String) (htoken : token ∈ draws) :
      d.createFile (stagedPath d target name token) stagedPermissions = .error .alreadyExists ∨
        ∃ made, d.createFile (stagedPath d target name token) stagedPermissions = .ok made := by
    have hstaged : Storable (stagedName name token) := storable_stagedName hnamenul
      (hfresh.tokens token htoken) (hroom.name target name hdestination hfile)
    have htaken := checkText_stagedPath hnamed hd hsegments hname hnul hstaged
      (hroom.path target name hdestination hfile token htoken)
    rw [Disk.createFile_of_reaches _ htaken
      (reaches_stagedPath hd hnamed hsegments hname hstaged hreach)]
    split
    · exact .inl rfl
    · exact .inr ⟨_, rfl⟩
  obtain ⟨token, htoken, hfree⟩ := hfresh.free target name hdestination hfile
  obtain ⟨made, hmade⟩ : ∃ made, stage d (draws.map (stagedPath d target name)) = .ok made :=
    stage_eq_ok_of_free (List.forall_mem_map.mpr htried)
      ⟨_, List.mem_map_of_mem htoken, hfree⟩
  have hok : (replace {} d draws p target bytes).result = .ok () := replace_eq_ok_iff.mpr
    ⟨⟨name, made, hfile, hmade⟩, htext, dir, name, hreach, hdirectory⟩
  obtain ⟨dir', name', -, hreach', -, hafter⟩ := replace_eq_ok hok
  cases hreach.unique hreach'
  exact ⟨hok, hafter⟩

end TtyGuard.Artifact
