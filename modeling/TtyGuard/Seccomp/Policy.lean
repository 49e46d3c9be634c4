/-
# TtyGuard.Seccomp.Policy — what the terminal filter is to decide, said without code

Two `ioctl` commands let a process type into its terminal.  The policy denies them, denies calls of
a convention whose numbers mean something else, kills on a foreign architecture, where no number
means anything, and allows the rest.
-/
import TtyGuard.Seccomp.Action
import TtyGuard.Seccomp.Call
import TtyGuard.Seccomp.Target

namespace TtyGuard.Seccomp.Policy

/-- The command that puts a byte into the terminal's input. -/
def tiocsti : UInt32 := 0x5412

/-- The console's command family, which can paste a selection into the input. -/
def tioclinux : UInt32 := 0x541c

/-- The denied commands. -/
def blockedCommands : List UInt32 := [tiocsti, tioclinux]

/-- The command of an `ioctl` call: the low half of the second argument. -/
def command (call : Call) : UInt32 := (call.args.get ⟨1, by decide⟩).toUInt32

/-- What is to happen to a call on a target. -/
def verdict (profile : Profile) (call : Call) : Action :=
  let nr := call.nr.toUInt32
  if call.arch ≠ profile.auditValue then .killProcess
  else if profile.hasX32 ∧ nr &&& x32Bit ≠ 0 then .deny
  else if nr ≠ profile.ioctlNr then .allow
  else if command call ∈ blockedCommands then .deny
  else .allow

end TtyGuard.Seccomp.Policy
