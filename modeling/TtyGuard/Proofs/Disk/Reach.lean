/-
# TtyGuard.Proofs.Disk.Reach — the walks that succeed, one way to go on at a time

`Reaches` lists the ways in which a walk goes on or ends when it succeeds; `reaches_of_walk` and
`walk_of_reaches` say that these are the ways of `walk`.  Facts about successful walks are proved here by induction on it, one case for
each way, and `walk` itself is not opened again:

  * `Reaches.congr` — only directories and links guide a walk, so what else stands on the disk does
    not matter to it;
  * `Reaches.of_manner` — walks in two manners that agree on links and on the slashes at the end
    reach the same slot;
  * `Reaches.walk_spelled` — asking for every name by its whole path adds one reason to fail, and
    no other.
-/
import TtyGuard.Proofs.Disk.Operations

namespace TtyGuard

/-- Whether a walk can go on from an entry. -/
def Entry.leadsOn : Entry → Bool
  | directory _ | link _ => true
  | file .. | device _ => false

namespace Disk

open TtyGuard.Path (Step)

/-- The ways in which a walk goes on or ends, if it succeeds. -/
inductive Reaches (d : Disk) (m : Manner) : Nat → Location → List Step → Slot → Prop
  | arrive {links loc} : Reaches d m links loc [] (.directory loc)
  | here {links loc rest slot} :
      Reaches d m links loc rest slot → Reaches d m links loc (.here :: rest) slot
  | slash {links loc rest slot} :
      Reaches d m links loc rest slot → Reaches d m links loc (.slash :: rest) slot
  | up {links loc rest slot} :
      Reaches d m links loc.tail rest slot → Reaches d m links loc (.up :: rest) slot
  /-- The slashes behind the last name are left to the operation. -/
  | keep {links loc name rest} (hlast : m.lastName? rest = some true) :
      Reaches d m links loc (.down name :: rest) (.name loc name true)
  | stop {links loc name rest} (hlast : m.lastName? rest = some false)
      (hadmits : m.admits loc name = true)
      (hlink : m.follow = true → ∀ target, d.get? (name :: loc) ≠ some (.link target)) :
      Reaches d m links loc (.down name :: rest) (.name loc name false)
  | follow {links loc name rest slot target} (hlast : m.lastName? rest ≠ some true)
      (hadmits : m.admits loc name = true) (hget : d.get? (name :: loc) = some (.link target))
      (hfollow : (m.lastName? rest).isSome = true → m.follow = true) :
      Reaches d m links (origin loc target) (target.steps ++ rest) slot →
      Reaches d m (links + 1) loc (.down name :: rest) slot
  | enter {links loc name rest slot mode} (hlast : m.lastName? rest = none)
      (hadmits : m.admits loc name = true)
      (hget : d.get? (name :: loc) = some (.directory mode)) :
      Reaches d m links (name :: loc) rest slot →
      Reaches d m links loc (.down name :: rest) slot

variable {d d' : Disk} {m m' : Manner} {links : Nat} {loc dir : Location} {name : String}
  {steps rest : List Step} {slot : Slot} {p : Path}

/-! ## Disks that guide walks alike -/

/-- The directories and the links are the same. -/
def SameWays (d d' : Disk) : Prop :=
  ∀ loc, (d.get? loc).filter Entry.leadsOn = (d'.get? loc).filter Entry.leadsOn

theorem SameWays.get?_eq_some {e : Entry} (h : SameWays d d') (he : e.leadsOn = true) :
    d.get? loc = some e ↔ d'.get? loc = some e := by
  have hmem : ∀ x : Option Entry, x.filter Entry.leadsOn = some e ↔ x = some e := by
    simp [Option.filter_eq_some_iff, he]
  rw [← hmem, h loc, hmem]

theorem SameWays.symm (h : SameWays d d') : SameWays d' d := fun loc => (h loc).symm

/-- Putting something where no way leads on opens no way and closes none. -/
theorem sameWays_insert {e : Entry} (hloc : loc ≠ [])
    (hold : (d.get? loc).filter Entry.leadsOn = none) (he : e.leadsOn = false) :
    SameWays d (d.insert loc e) := by
  intro other
  by_cases heq : other = loc
  · rw [heq, hold, get?_insert_self d e hloc]
    simp [Option.filter, he]
  · rw [get?_insert_of_ne d e heq]

/-- So does putting it where nothing stands. -/
theorem sameWays_insert_of_none {e : Entry} (hloc : loc ≠ []) (hfree : d.get? loc = none)
    (he : e.leadsOn = false) : SameWays d (d.insert loc e) := by
  refine sameWays_insert hloc ?_ he
  rw [hfree]
  rfl

theorem sameWays_changeFile (d : Disk) (number : Nat) (bytes : List UInt8) :
    SameWays d (d.changeFile number (Entry.withBytes bytes)) := by
  intro loc
  rw [get?_changeFile]
  cases d.get? loc with
  | none => rfl
  | some e =>
    cases e with
    | file n mode old =>
      rw [Option.map_some]
      split
      · rfl
      · rfl
    | directory mode => rfl
    | link target => rfl
    | device dev => rfl

/-! ## The last name -/

namespace Manner

theorem lastName?_eq_some_false (hsome : (m.lastName? rest).isSome = true)
    (h : m.lastName? rest ≠ some true) : m.lastName? rest = some false := by
  obtain ⟨slash, hslash⟩ := Option.isSome_iff_exists.mp hsome
  cases slash with
  | true => exact absurd hslash h
  | false => exact hslash

theorem keepSlash_of_lastName? (h : m.lastName? rest = some true) : m.keepSlash = true := by
  unfold lastName? at h
  split at h
  · cases h
  · split at h
    · assumption
    · cases h
  · cases h

/-- Manners differ about the last name only in the slashes that one of them keeps. -/
theorem lastName?_congr (hkeep : m'.keepSlash = true → m.keepSlash = true)
    (h : m.lastName? rest ≠ some true) : m'.lastName? rest = m.lastName? rest := by
  unfold lastName? at h ⊢
  split
  · rfl
  · cases hm : m.keepSlash with
    | true =>
      rw [hm] at h
      exact absurd rfl h
    | false =>
      have hm' : m'.keepSlash = false := by
        simpa [hm] using hkeep
      rw [hm']
  · rfl

/-- A name that can be asked for by its whole path can be asked for. -/
theorem admits_mono (hspelled : m'.spelled = true → m.spelled = true)
    (h : m.admits dir name = true) : m'.admits dir name = true := by
  unfold admits at h ⊢
  cases hm' : m'.spelled with
  | false =>
    simp only [Bool.not_false, Bool.true_or, Bool.and_true]
    exact (Bool.and_eq_true_iff.mp h).1
  | true => rwa [hspelled hm'] at h

end Manner

/-- What a walk in a manner can end at: slashes are left over only if it keeps them, and a link only
if it does not follow it. -/
def Slot.Ends (d : Disk) (m : Manner) : Slot → Prop
  | .directory _ => True
  | .name _ _ true => m.keepSlash = true
  | .name dir name false => m.follow = true → ∀ target, d.get? (name :: dir) ≠ some (.link target)

/-! ## One name further -/

theorem walk_keep (hlast : m.lastName? rest = some true) :
    d.walk m links loc (.down name :: rest) = .ok (.name loc name true) := by
  rw [walk, hlast]

theorem walk_stop (hlast : m.lastName? rest = some false) (hadmits : m.admits loc name = true)
    (hlink : m.follow = true → ∀ target, d.get? (name :: loc) ≠ some (.link target)) :
    d.walk m links loc (.down name :: rest) = .ok (.name loc name false) := by
  rw [walk, hlast]
  simp only [hadmits, Bool.not_true, Bool.false_eq_true, if_false, Option.isSome_some,
    Bool.true_and, if_true]
  split
  · next target hget =>
    have hstay : m.follow = false := by
      cases hfollow : m.follow with
      | true => exact absurd hget (hlink hfollow target)
      | false => rfl
    simp only [hstay, Bool.not_false, if_true]
  · rfl

theorem walk_follow {target : Path} (hlast : m.lastName? rest ≠ some true)
    (hadmits : m.admits loc name = true) (hget : d.get? (name :: loc) = some (.link target))
    (hfollow : (m.lastName? rest).isSome = true → m.follow = true) :
    d.walk m (links + 1) loc (.down name :: rest) =
      d.walk m links (origin loc target) (target.steps ++ rest) := by
  have hgo : ((m.lastName? rest).isSome && !m.follow) = false := by
    cases hsome : (m.lastName? rest).isSome with
    | true => simp [hfollow hsome]
    | false => rfl
  rw [walk]
  split
  · next h => exact absurd h hlast
  · simp only [hadmits, Bool.not_true, Bool.false_eq_true, if_false, hget, hgo]

theorem walk_enter {mode : Nat} (hlast : m.lastName? rest = none)
    (hadmits : m.admits loc name = true) (hget : d.get? (name :: loc) = some (.directory mode)) :
    d.walk m links loc (.down name :: rest) = d.walk m links (name :: loc) rest := by
  rw [walk, hlast]
  simp only [hadmits, Bool.not_true, Bool.false_eq_true, if_false, hget, Option.isSome_none]

theorem walk_not_admitted (hlast : m.lastName? rest ≠ some true)
    (hadmits : m.admits loc name = false) :
    d.walk m links loc (.down name :: rest) = .error .nameTooLong := by
  rw [walk]
  split
  · next h => exact absurd h hlast
  · simp only [hadmits, Bool.not_false, if_true]

/-! ## Walking and reaching -/

theorem reaches_of_walk (h : d.walk m links loc steps = .ok slot) :
    Reaches d m links loc steps slot := by
  fun_induction walk d m links loc steps with
  | case1 links loc =>
    cases h
    exact .arrive
  | case2 links loc rest ih => exact .here (ih h)
  | case3 links loc rest ih => exact .slash (ih h)
  | case4 links loc rest ih => exact .up (ih h)
  | case5 links loc name rest hlast =>
    cases h
    exact .keep hlast
  | case7 links loc name rest hadmits target hget hlast hstay =>
    cases h
    obtain ⟨hsome, hfollow⟩ : (m.lastName? rest).isSome = true ∧ m.follow = false := by
      simpa using hstay
    refine .stop (Manner.lastName?_eq_some_false hsome hlast) (by simpa using hadmits) ?_
    rw [hfollow]
    exact fun h => absurd h Bool.false_ne_true
  | case9 loc name rest hadmits target hget links hlast hgo ih =>
    refine .follow hlast (by simpa using hadmits) hget ?_ (ih h)
    intro hsome
    simpa [hsome] using hgo
  | case10 links loc name rest hadmits hlast hsome hget =>
    cases h
    exact .stop (Manner.lastName?_eq_some_false hsome hlast) (by simpa using hadmits) fun _ => hget
  | case11 links loc name rest hadmits mode hlast hnone hlink hget ih =>
    exact .enter (by simpa using hnone) (by simpa using hadmits) hget (ih h)
  -- In the other cases the walk fails.
  | _ => cases h

theorem walk_of_reaches (h : Reaches d m links loc steps slot) :
    d.walk m links loc steps = .ok slot := by
  induction h with
  | arrive => rw [walk]
  | here _ ih => rwa [walk]
  | slash _ ih => rwa [walk]
  | up _ ih => rwa [walk]
  | keep hlast => exact walk_keep hlast
  | stop hlast hadmits hlink => exact walk_stop hlast hadmits hlink
  | follow hlast hadmits hget hfollow _ ih => rwa [walk_follow hlast hadmits hget hfollow]
  | enter hlast hadmits hget _ ih => rwa [walk_enter hlast hadmits hget]

namespace Reaches

/-! ## What a walk does not depend on -/

/-- A walk that asks for every name by its whole path reaches the same slot as one that does not,
unless one of those paths is too long. -/
theorem walk_spelled (h : Reaches d m links loc steps slot) :
    d.walk { m with spelled := true } links loc steps = .ok slot ∨
      d.walk { m with spelled := true } links loc steps = .error .nameTooLong := by
  induction h with
  | arrive => exact .inl (by rw [walk])
  | here _ ih => rwa [walk]
  | slash _ ih => rwa [walk]
  | up _ ih => rwa [walk]
  | keep hlast => exact .inl (walk_keep hlast)
  | @stop links loc name rest hlast hadmits hlink =>
    cases hlong : Manner.admits { m with spelled := true } loc name with
    | true => exact .inl (walk_stop hlast hlong hlink)
    | false =>
      have hnext : m.lastName? rest ≠ some true := by simp [hlast]
      exact .inr (walk_not_admitted hnext hlong)
  | @follow links loc name rest slot target hlast hadmits hget hfollow _ ih =>
    cases hlong : Manner.admits { m with spelled := true } loc name with
    | true => rwa [walk_follow (m := { m with spelled := true }) hlast hlong hget hfollow]
    | false => exact .inr (walk_not_admitted hlast hlong)
  | @enter links loc name rest slot mode hlast hadmits hget _ ih =>
    cases hlong : Manner.admits { m with spelled := true } loc name with
    | true => rwa [walk_enter (m := { m with spelled := true }) hlast hlong hget]
    | false =>
      have hnext : m.lastName? rest ≠ some true := by simp [hlast]
      exact .inr (walk_not_admitted hnext hlong)

/-- Two disks guide walks alike if they have the same directories and links. -/
theorem congr (hways : SameWays d d') (h : Reaches d m links loc steps slot) :
    Reaches d' m links loc steps slot := by
  induction h with
  | arrive => exact .arrive
  | here _ ih => exact .here ih
  | slash _ ih => exact .slash ih
  | up _ ih => exact .up ih
  | keep hlast => exact .keep hlast
  | stop hlast hadmits hlink =>
    refine .stop hlast hadmits fun hfollow target hget => ?_
    exact hlink hfollow target ((hways.get?_eq_some rfl).mpr hget)
  | follow hlast hadmits hget hfollow _ ih =>
    exact .follow hlast hadmits ((hways.get?_eq_some rfl).mp hget) hfollow ih
  | enter hlast hadmits hget _ ih =>
    exact .enter hlast hadmits ((hways.get?_eq_some rfl).mp hget) ih

/-- The slot that a walk reaches without slashes behind it is reached in another manner, too, if
that follows the same links on the way, stops at no link at the end, and asks for no more. -/
theorem of_manner (h : Reaches d m links loc steps slot)
    (hkeep : m'.keepSlash = true → m.keepSlash = true)
    (hspelled : m'.spelled = true → m.spelled = true)
    (hfollow : m.follow = true → m'.follow = true)
    (hslash : ∀ dir name, slot ≠ .name dir name true)
    (hlink : m'.follow = true → ∀ dir name, slot = .name dir name false →
      ∀ target, d.get? (name :: dir) ≠ some (.link target)) :
    Reaches d m' links loc steps slot := by
  induction h with
  | arrive => exact .arrive
  | here _ ih => exact .here (ih hslash hlink)
  | slash _ ih => exact .slash (ih hslash hlink)
  | up _ ih => exact .up (ih hslash hlink)
  | keep hlast => exact absurd rfl (hslash _ _)
  | stop hlast hadmits _ =>
    have hsame := Manner.lastName?_congr hkeep (by rw [hlast]; decide)
    exact .stop (hsame.trans hlast) (Manner.admits_mono hspelled hadmits)
      fun hon => hlink hon _ _ rfl
  | follow hlast hadmits hget hgo _ ih =>
    -- A link at the end was followed because `m` follows links, and then `m'` does.
    have hsame := Manner.lastName?_congr hkeep hlast
    refine .follow (hsame ▸ hlast) (Manner.admits_mono hspelled hadmits) hget ?_ (ih hslash hlink)
    rw [hsame]
    exact fun hsome => hfollow (hgo hsome)
  | enter hlast hadmits hget _ ih =>
    have hsame := Manner.lastName?_congr hkeep (by rw [hlast]; decide)
    exact .enter (hsame.trans hlast) (Manner.admits_mono hspelled hadmits) hget (ih hslash hlink)

/-! ## What a walk ends at -/

theorem ends (h : Reaches d m links loc steps slot) : slot.Ends d m := by
  induction h with
  | arrive => trivial
  | keep hlast => exact Manner.keepSlash_of_lastName? hlast
  | stop _ _ hlink => exact hlink
  | here _ ih | slash _ ih | up _ ih => exact ih
  | follow _ _ _ _ _ ih => exact ih
  | enter _ _ _ _ ih => exact ih

theorem slash_eq_false {slash : Bool} (h : Reaches d m links loc steps (.name dir name slash))
    (hkeep : m.keepSlash = false) : slash = false := by
  cases slash with
  | false => rfl
  | true => exact nomatch hkeep.symm.trans h.ends

/-- A walk that follows links does not end at one. -/
theorem get?_ne_link (h : Reaches d m links loc steps (.name dir name false))
    (hfollow : m.follow = true) (target : Path) : d.get? (name :: dir) ≠ some (.link target) :=
  h.ends hfollow target

/-- What a walk that follows links reaches is what its path leads to. -/
theorem toTarget (h : Reaches d m links loc steps slot) (hfollow : m.follow = true)
    (hslash : ∀ dir name, slot ≠ .name dir name true) :
    Reaches d .toTarget links loc steps slot := by
  refine h.of_manner nofun nofun (fun _ => rfl) hslash ?_
  rintro - dir name rfl target
  exact h.get?_ne_link hfollow target

end Reaches

/-! ## Resolving a path -/

theorem occupied_name_eq_ok_iff {slash : Bool} {e : Entry} :
    d.occupied (.name dir name slash) = .ok (loc, e) ↔
      loc = name :: dir ∧ d.get? (name :: dir) = some e := by
  rw [occupied]
  cases d.get? (name :: dir) with
  | none => simp
  | some found => simp [eq_comm]

theorem resolve_eq_ok (h : d.resolve m p = .ok slot) :
    checkText p = .ok () ∧ Reaches d m maxLinks (origin d.cwd p) p.steps slot := by
  obtain ⟨_, htext, hwalk⟩ := bind_eq_ok.mp h
  exact ⟨htext, reaches_of_walk hwalk⟩

theorem resolve_of_reaches (htext : checkText p = .ok ())
    (h : Reaches d m maxLinks (origin d.cwd p) p.steps slot) : d.resolve m p = .ok slot :=
  bind_eq_ok.mpr ⟨(), htext, walk_of_reaches h⟩

theorem isLink_of_reaches {target : Path} (htext : checkText p = .ok ())
    (h : Reaches d .toEntry maxLinks (origin d.cwd p) p.steps (.name dir name false))
    (hget : d.get? (name :: dir) = some (.link target)) : d.isLink p = true := by
  have hfound : d.occupied (.name dir name false) = .ok (name :: dir, .link target) :=
    occupied_name_eq_ok_iff.mpr ⟨rfl, hget⟩
  have hentry : d.resolve .toEntry p >>= d.occupied = .ok (name :: dir, .link target) :=
    bind_eq_ok.mpr ⟨_, resolve_of_reaches htext h, hfound⟩
  unfold isLink
  rw [hentry]

theorem leadsTo_of_reaches (h : Reaches d .toTarget maxLinks (origin d.cwd p) p.steps slot) :
    d.leadsTo p = d.occupied slot := by
  unfold leadsTo
  rw [walk_of_reaches h]
  rfl

theorem leadsTo_eq_ok_iff {e : Entry}
    (h : Reaches d .toTarget maxLinks (origin d.cwd p) p.steps (.name dir name false)) :
    d.leadsTo p = .ok (loc, e) ↔ loc = name :: dir ∧ d.get? (name :: dir) = some e := by
  rw [leadsTo_of_reaches h, occupied_name_eq_ok_iff]

theorem leadsTo_eq_ok {e : Entry} (h : d.leadsTo p = .ok (loc, e)) :
    ∃ slot, Reaches d .toTarget maxLinks (origin d.cwd p) p.steps slot ∧
      d.occupied slot = .ok (loc, e) := by
  obtain ⟨slot, hwalk, hfound⟩ := bind_eq_ok.mp h
  exact ⟨slot, reaches_of_walk hwalk, hfound⟩

theorem canonical_eq_ok {e : Entry} (h : d.canonical p = .ok (loc, e)) :
    (∃ slot, Reaches d .toCanonical maxLinks (origin d.cwd p) p.steps slot ∧
      d.occupied slot = .ok (loc, e)) ∧ (Path.ofLocation loc).byteLength ≤ maxPathLength := by
  unfold canonical at h
  split at h
  · cases h
  · split at h
    · cases h
    · obtain ⟨slot, hwalk, h⟩ := bind_eq_ok.mp h
      obtain ⟨found, hfound, h⟩ := bind_eq_ok.mp h
      dsimp only at h
      split at h
      · cases h
      · next hlength =>
        cases h
        exact ⟨⟨slot, reaches_of_walk hwalk, hfound⟩, Nat.le_of_not_lt hlength⟩

/-- A path leads to where its canonical path leads. -/
theorem leadsTo_of_canonical {e : Entry} (h : d.canonical p = .ok (loc, e)) :
    d.leadsTo p = .ok (loc, e) := by
  obtain ⟨⟨slot, hslot, hfound⟩, -⟩ := canonical_eq_ok h
  have hslash : ∀ dir name, slot ≠ .name dir name true := by
    rintro dir name rfl
    exact nomatch hslot.slash_eq_false rfl
  rw [leadsTo_of_reaches (hslot.toTarget rfl hslash), hfound]

/-- What a path leads to lacks a canonical path only for its length. -/
theorem canonical_eq_error {e : Entry} {cause : SystemError} (htext : checkText p = .ok ())
    (h : d.leadsTo p = .ok (loc, e)) (herror : d.canonical p = .error cause) :
    cause = .nameTooLong := by
  obtain ⟨slot, hslot, hfound⟩ := leadsTo_eq_ok h
  unfold checkText at htext
  unfold canonical at herror
  split at htext
  · cases htext
  · split at htext
    · cases htext
    · next hnul hempty =>
      rw [if_neg hnul, if_neg hempty] at herror
      have hspelled : d.walk .toCanonical maxLinks (origin d.cwd p) p.steps = .ok slot ∨
          d.walk .toCanonical maxLinks (origin d.cwd p) p.steps = .error .nameTooLong :=
        hslot.walk_spelled
      obtain hwalk | hwalk := hspelled
      · simp only [hwalk, hfound, bind, Except.bind] at herror
        split at herror
        · cases herror
          rfl
        · cases herror
      · rw [hwalk] at herror
        cases herror
        rfl

/-- What lies too deep has no canonical path. -/
theorem canonical_of_long {e : Entry} (htext : checkText p = .ok ())
    (h : d.leadsTo p = .ok (loc, e)) (hlong : maxPathLength < (Path.ofLocation loc).byteLength) :
    d.canonical p = .error .nameTooLong := by
  cases hcanonical : d.canonical p with
  | error cause => rw [canonical_eq_error htext h hcanonical]
  | ok found =>
    obtain ⟨loc', e'⟩ := found
    cases h.symm.trans (leadsTo_of_canonical hcanonical)
    exact absurd (canonical_eq_ok hcanonical).2 (Nat.not_le_of_lt hlong)

end Disk

end TtyGuard
