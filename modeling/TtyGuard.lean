import TtyGuard.Proofs.Bpf.Compilation
import TtyGuard.Proofs.Bpf.Relocation
import TtyGuard.Proofs.Bpf.Decoding
import TtyGuard.Proofs.Bpf.Isolation
import TtyGuard.Proofs.Seccomp.Layout
import TtyGuard.Proofs.Seccomp.Verification
import TtyGuard.Proofs.Seccomp.Enforcement
import TtyGuard.Proofs.Seccomp.RoundTrip
import TtyGuard.Proofs.Seccomp.Reading
import TtyGuard.Proofs.Disk.Operations
import TtyGuard.Proofs.Disk.Reach
import TtyGuard.Proofs.Disk.Tree
import TtyGuard.Proofs.Artifact.Failure
import TtyGuard.Proofs.Artifact.Effect
import TtyGuard.Proofs.Bpf.Lockstep
import TtyGuard.Proofs.Seccomp.Relevance
import TtyGuard.Proofs.Disk.Beside
import TtyGuard.Proofs.Artifact.Staging
import TtyGuard.Proofs.Artifact.Success
import TtyGuard.Proofs.Artifact.Agreement
import TtyGuard.Proofs.Artifact.Repetition
import TtyGuard.Proofs.CommandLine.Grammar
import TtyGuard.Proofs.CommandLine.Outcome
import TtyGuard.Proofs.Bpf.Continuation
import TtyGuard.Proofs.Bpf.Limits
import TtyGuard.Proofs.Seccomp.Composition
import TtyGuard.Proofs.Bpf.Serialization
import TtyGuard.Proofs.Seccomp.Rejection
import TtyGuard.Proofs.Bpf.Ending
import TtyGuard.Proofs.Seccomp.Diagnosis
import TtyGuard.Proofs.Seccomp.Placement
import TtyGuard.Proofs.Seccomp.Recovery
import TtyGuard.Proofs.Seccomp.ReturnValue
