/-
# TtyGuard.Seccomp.Target — the machine that a filter is made for

System calls are numbered differently on each architecture, so a filter is made for one of them.
The architecture's audit value is put together from its ELF machine number and two flags.
-/

namespace TtyGuard.Seccomp

/-- A calling convention for system calls. -/
inductive Architecture where
  | x86_64
  | aarch64
  | x86
  | arm
deriving DecidableEq, Repr

namespace Architecture

/-- All supported architectures. -/
def all : List Architecture := [x86_64, aarch64, x86, arm]

/-- The architecture's name. -/
def name : Architecture → String
  | x86_64 => "x86_64"
  | aarch64 => "aarch64"
  | x86 => "x86"
  | arm => "arm"

/-- The machine number that executables of the architecture carry. -/
def elfMachine : Architecture → UInt32
  | x86_64 => 62
  | aarch64 => 183
  | x86 => 3
  | arm => 40

/-- Whether registers have 64 bits. -/
def is64Bit : Architecture → Bool
  | x86_64 | aarch64 => true
  | x86 | arm => false

/-- The audit flag of 64-bit architectures. -/
def audit64Bit : UInt32 := 0x80000000

/-- The audit flag of little-endian architectures, which all of these are. -/
def auditLittleEndian : UInt32 := 0x40000000

/-- The value that names the architecture in the record of a call. -/
def auditValue (a : Architecture) : UInt32 :=
  a.elfMachine ||| (if a.is64Bit then audit64Bit else 0) ||| auditLittleEndian

end Architecture

/-- The bit of a call's number that marks the x32 convention, which shares its audit value with
x86_64. -/
def x32Bit : UInt32 := 0x40000000

/-- What a filter has to know about its target. -/
structure Profile where
  arch : Architecture
  /-- The number of the `ioctl` call. -/
  ioctlNr : UInt32
  /-- Whether calls with the x32 convention have to be told apart by their number. -/
  hasX32 : Bool
deriving DecidableEq, Repr

namespace Profile

/-- The profile of an architecture. -/
def ofArchitecture : Architecture → Profile
  | .x86_64 => ⟨.x86_64, 16, true⟩
  | .aarch64 => ⟨.aarch64, 29, false⟩
  | .x86 => ⟨.x86, 54, false⟩
  | .arm => ⟨.arm, 54, false⟩

/-- The value that the target's calls carry as their architecture. -/
def auditValue (p : Profile) : UInt32 := p.arch.auditValue

end Profile

end TtyGuard.Seccomp
