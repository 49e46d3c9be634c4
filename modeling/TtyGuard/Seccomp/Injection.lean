/-
# TtyGuard.Seccomp.Injection — the program that keeps a process from typing into its terminal

The code checks the architecture, then the convention, then the number of the call, then the
command, and each check relies on those before it.  It is put together from conditional statements
and then verified like any other code.
-/
import TtyGuard.Log
import TtyGuard.Seccomp.Policy
import TtyGuard.Seccomp.Program

namespace TtyGuard.Seccomp.Injection

open Bpf (Instruction StatementError Statement.when Statement.whenNot Statement.whenAnyElse)

/-- Why no filter could be made. -/
inductive FilterError where
  /-- A statement cannot be laid out. -/
  | statement (e : StatementError)
  /-- The code is not a program. -/
  | verification (e : VerificationError)
deriving DecidableEq, Repr

/-- The text shown where no filter could be made. -/
def FilterError.message : FilterError → String
  | statement e => "cannot assemble the filter: " ++ e.message
  | verification e => "assembled filter is not valid: " ++ e.message

/-- Loads one of the words the filter looks at. -/
def loadField (field : Call.Field) : Instruction := .load field.offset

/-- Returns the value of an action. -/
def returnAction (action : Action) : Instruction := .ret action.encode

/-- The filter's instructions: kill on a foreign architecture, deny the x32 convention, allow what
is not `ioctl`, and deny the blocked commands. -/
def code (profile : Profile) : Except StatementError (List Instruction) := do
  let foreign ← Statement.whenNot ⟨.equal, profile.auditValue⟩ [returnAction .killProcess]
  let x32 ←
    if profile.hasX32 then Statement.when ⟨.bitSet, x32Bit⟩ [returnAction .deny] else pure []
  let otherCall ← Statement.whenNot ⟨.equal, profile.ioctlNr⟩ [returnAction .allow]
  let commands ← Statement.whenAnyElse (Policy.blockedCommands.map (⟨.equal, ·⟩))
    [returnAction .deny] [returnAction .allow]
  return loadField .architecture :: foreign ++ loadField .syscallNumber :: x32 ++ otherCall ++
    loadField .secondArgumentLow :: commands

/-- The filter for a target. -/
def filter (profile : Profile) : Except FilterError Program := do
  let code ← (code profile).mapError .statement
  (Program.ofCode code).mapError .verification

/-- The log record of a filter that was made. -/
def builtRecord (profile : Profile) (program : Program) : Log.Record where
  level := .debug
  target := "tiocsti_filter::seccomp_bpf::filter"
  text := s!"built {program.length} instruction filter for {profile.arch.name} (x32 rejected: {profile.hasX32})"

end TtyGuard.Seccomp.Injection
