import GraphCommit.Lock.Guard
import GraphCommit.Query.Engine
import GraphCommit.Scripted
import GraphCommit.Settings.Environment
import GraphCommit.Settings.Json
import GraphCommit.Store.Opening
import GraphCommit.Proofs.Effect
import GraphCommit.Proofs.Ensures
import GraphCommit.Proofs.Recorded
import GraphCommit.Proofs.Account
import GraphCommit.Proofs.Coordination
import GraphCommit.Proofs.Schedule
import GraphCommit.Proofs.Lock.Manager
import GraphCommit.Proofs.Lock.Run
import GraphCommit.Proofs.Lock.Exclusion
import GraphCommit.Proofs.Lock.Overlap
import GraphCommit.Proofs.Lock.Waiting
import GraphCommit.Proofs.Lock.Guard
import GraphCommit.Proofs.Lock.Front
import GraphCommit.Proofs.Order
import GraphCommit.Proofs.Branch.Adoption
import GraphCommit.Proofs.Branch.Outcome
import GraphCommit.Proofs.Branch.History
import GraphCommit.Proofs.Branch.Vote
import GraphCommit.Proofs.Branch.Progress
import GraphCommit.Proofs.Files
import GraphCommit.Proofs.Store.Depot
import GraphCommit.Proofs.Store.Working
import GraphCommit.Proofs.Store.History
import GraphCommit.Proofs.Store.Contents
import GraphCommit.Proofs.Store.Desk
import GraphCommit.Proofs.Store.Vacant
import GraphCommit.Proofs.Scripted
import GraphCommit.Proofs.Derivation
import GraphCommit.Proofs.Derivation.Named
import GraphCommit.Proofs.Derivation.Pass
import GraphCommit.Proofs.Derivation.Numbering
import GraphCommit.Proofs.Derivation.Conclusion
import GraphCommit.Proofs.Derivation.Target
import GraphCommit.Proofs.Derivation.Findings
import GraphCommit.Proofs.Derivation.Instances
import GraphCommit.Proofs.Derivation.Sequence
import GraphCommit.Proofs.Attribution
import GraphCommit.Proofs.Opening
import GraphCommit.Proofs.Isolation
import GraphCommit.Proofs.Atomicity
import GraphCommit.Proofs.Store.CommitLog
import GraphCommit.Proofs.Lock.Renaming
import GraphCommit.Proofs.Mirror
import GraphCommit.Proofs.Piece
import GraphCommit.Proofs.Audit
import GraphCommit.Proofs.Store.Twins
import GraphCommit.Proofs.Uniform
import GraphCommit.Proofs.Cleanup
import GraphCommit.Proofs.Lock.Failure
import GraphCommit.Proofs.Branch.CommitPhase
import GraphCommit.Proofs.Branch.Escalation
import GraphCommit.Proofs.Branch.Legible
import GraphCommit.Proofs.Derivation.Trigger
import GraphCommit.Proofs.Derivation.Passes
import GraphCommit.Proofs.Settings.Directories
import GraphCommit.Proofs.Handles
import GraphCommit.Proofs.Whole
import GraphCommit.Proofs.Row
import GraphCommit.Proofs.Settings.Environment
import GraphCommit.Proofs.Store.Reader
import GraphCommit.Proofs.Store.Rollback
import GraphCommit.Proofs.Document.Syntax
