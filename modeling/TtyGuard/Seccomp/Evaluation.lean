/-
# TtyGuard.Seccomp.Evaluation — the verdict of code on a system call

The code runs on the call's record, and the value it returns is read as an action.  Nothing is
assumed of the code, so the run may also end in a fault.
-/
import TtyGuard.Bpf.Machine
import TtyGuard.Seccomp.Action
import TtyGuard.Seccomp.Call

namespace TtyGuard.Seccomp

/-- Why code gives no verdict on a call. -/
inductive EvaluationError where
  /-- The run did not end in a return. -/
  | fault (f : Bpf.Fault)
  /-- The returned value selects no known action. -/
  | unknownAction (e : UnknownAction)
deriving DecidableEq, Repr

/-- The text shown for an evaluation that failed. -/
def EvaluationError.message : EvaluationError → String
  | fault f => f.message
  | unknownAction e => e.message

/-- The verdict that the end of a run stands for. -/
def verdictOf : Except Bpf.Fault UInt32 → Except EvaluationError Action
  | .error f => .error (.fault f)
  | .ok value => (Action.decode value).mapError .unknownAction

/-- The verdict of code on a call. -/
def evaluate (code : List Bpf.Instruction) (call : Call) : Except EvaluationError Action :=
  verdictOf (Bpf.run code call.toBytes)

end TtyGuard.Seccomp
