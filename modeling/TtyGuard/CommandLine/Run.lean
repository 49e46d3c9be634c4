/-
# TtyGuard.CommandLine.Run — one call of the program

A call shows a text, refuses its arguments, or makes the filter of the native architecture and puts
it at the output.  The log specification decides what is seen of this and nothing else.

Arguments are texts, as paths are: an argument that is not UTF-8 is not covered.
-/
import TtyGuard.Artifact
import TtyGuard.CommandLine.Arguments
import TtyGuard.Seccomp.Injection

namespace TtyGuard.CommandLine

open Seccomp (Architecture Profile Program Policy.tiocsti Policy.tioclinux Action.deny
  Injection.filter Injection.builtRecord)

/-- How a call ended. -/
structure Report where
  code : Nat
  disk : Disk
  events : List Event

/-- A record of the program's own. -/
def record (level : Log.Level) (text : String) : Event := .logged ⟨level, "tiocsti_filter", text⟩

/-- What is told about a filter before it is written. -/
def summary (profile : Profile) (program : Program) : List String :=
  ["Generating seccomp BPF filter for TIOCSTI/TIOCLINUX blocking",
    s!"  Architecture:    {profile.arch.name}",
    s!"  Audit arch:      {hexText 8 profile.auditValue.toNat}",
    s!"  ioctl syscall:   {profile.ioctlNr}",
    s!"  TIOCSTI:         {hexText 4 Policy.tiocsti.toNat}",
    s!"  TIOCLINUX:       {hexText 4 Policy.tioclinux.toNat}"] ++
  (if profile.hasX32 then [s!"  x32 ABI:         denied with {Action.deny.describe}"] else []) ++
  [s!"  Instructions:    {program.length}",
    s!"  Filter size:     {program.toBytes.length} bytes"]

/-- What is left to do once the arguments are read. -/
inductive Task where
  /-- Nothing but to show these events and end with this code. -/
  | finished (code : Nat) (events : List Event)
  /-- To show these events and put the bytes at the output. -/
  | write (output : String) (bytes : List UInt8) (events : List Event)

/-- Makes the filter of the native architecture for an output. -/
def Task.generate (native : Architecture) (output : String) : Task :=
  let profile := Profile.ofArchitecture native
  match Injection.filter profile with
  | .error e => .finished 1 [record .error e.message]
  | .ok program =>
    .write output program.toBytes
      (.logged (Injection.builtRecord profile program) ::
        (summary profile program).map (record .info))

/-- What the arguments ask for. -/
def Task.ofArguments (native : Architecture) (args : List String) : Task :=
  match read args with
  | .error e => .finished 2 [.printed .err e.message]
  | .ok (.inform s) => .finished 0 [.printed .out s.text]
  | .ok (.write output) => .generate native output

/-- How the program ends after a write: its code, and what it says last. -/
def conclusion (output : String) : Except Artifact.WriteError Unit → Nat × Event
  | .ok () => (0, record .info s!"Successfully wrote filter to: {output}")
  | .error e => (1, record .error e.message)

/-- Does what the arguments ask for. -/
def carryOut (native : Architecture) (o : Artifact.Hindrance) (d : Disk)
    (draws args : List String) : Report :=
  match Task.ofArguments native args with
  | .finished code events => ⟨code, d, events⟩
  | .write output bytes events =>
    let written := Artifact.write o d draws (.ofText output) bytes
    let (code, last) := conclusion output written.result
    ⟨code, written.disk, events ++ written.events ++ [last]⟩

/-! ## Logging -/

/-- The filter of a log specification, if there is one, and warnings about what cannot be read. -/
def logFilter (spec : Option String) : Log.Filter × List Event :=
  let (filter, faults) := Log.Filter.ofSpec (spec.getD Log.Filter.standardSpec)
  (filter, faults.map fun fault => .printed .err s!"warning: {fault}, ignoring it\n")

/-- One call on a machine of the native architecture, with its arguments and its log specification, if
there is one.  What cannot be read of the specification is reported first; of the rest, only what it
lets through is seen. -/
def run (native : Architecture) (o : Artifact.Hindrance) (d : Disk) (draws args : List String)
    (spec : Option String) : Report :=
  let (filter, warnings) := logFilter spec
  let report := carryOut native o d draws args
  { report with events := warnings ++ report.events.filter (Event.isShown filter) }

end TtyGuard.CommandLine
