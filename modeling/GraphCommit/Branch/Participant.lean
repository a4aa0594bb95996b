import GraphCommit.Branch.State
import GraphCommit.Commit
import GraphCommit.Derivation.Queries
import GraphCommit.Journal

/-!
# The participant of a branch

The participant answers the coordinator for the one branch of its connection.  It votes from the
journal and completes the branch through the connection's client.  A commit that fails leaves the
branch as it is and puts the whole journal into the audit trail, for somebody has to see what has
reached the store.  A rollback that fails is logged only, since nothing was committed.
-/

namespace GraphCommit

/-- What the coordinator's calls work with: the client, how it commits, the writes of the branch
and the branch itself. -/
structure Participant where
  client : ClientId
  strategy : Strategy
  journal : Journal := Journal.empty
  branch : Branch := Branch.idle
  deriving Repr, Inhabited

namespace Participant

/-- Forgets the branch, but not its writes. -/
def forgetBranch (p : Participant) : Participant := { p with branch := Branch.idle }

/-- Forgets the branch and its writes. -/
def reset (p : Participant) : Participant := { p.forgetBranch with journal := Journal.empty }

end Participant

/-- A participant and what lies outside it. -/
structure Enlisted (S : Type) where
  participant : Participant
  outside : Outside S

namespace Participant

/-- A call of the coordinator.  It may be refused; what it did before that stays done. -/
abbrev Call (S α : Type) := ExceptT BranchFault (StateM (Enlisted S)) α

section

variable {S α : Type}

def note (level : Level) (message : String) (target : String := Record.participant) :
    Call S Unit :=
  modify fun e => { e with outside := e.outside.note level target message }

/-- A decision about the branch. -/
def decide (decision : Branch → Except BranchFault α) : Call S α := fun e =>
  (decision e.participant.branch, e)

/-- Moves the branch on, or refuses to. -/
def move (decision : Branch → Except BranchFault Branch) : Call S Unit := do
  let branch ← decide decision
  modify fun e => { e with participant := { e.participant with branch } }

/-- The result of a job on the stores and the log. -/
def job (j : Job S α) : Call S (Except Fault α) := fun e =>
  let (result, outside) := j e.outside
  (.ok result, { e with outside })

def start (x : Xid) (flags : Flags) : Call S Unit := do
  note .debug ("start transaction xid " ++ x.text ++ " with flag " ++ flags.text)
  move (·.start x flags)

def finish (x : Xid) (flags : Flags) : Call S Unit := do
  note .debug ("end transaction xid " ++ x.text ++ " with flag " ++ flags.text)
  move (·.finish x flags)

def prepare (x : Xid) : Call S Vote := do
  note .debug ("prepare transaction xid " ++ x.text)
  let wroteNothing := (← get).participant.journal.isEmpty
  let (vote, branch) ← decide (·.prepare x wroteNothing)
  move fun _ => .ok branch
  return vote

/-- What the audit trail says of a branch that could not be committed. -/
def notCommitted (x : Xid) (journal : Journal) : String :=
  "TRANSACTION " ++ x.text ++
    " HAS NOT BEEN COMMITTED! THE FOLLOWING OPERATIONS MUST BE ROLLED BACK: " ++ journal.text

def forget (x : Xid) : Call S Unit :=
  note .debug ("forgetting transaction xid " ++ x.text) Record.branches

/-- The prepared branches that are not completed yet, of which none is remembered. -/
def recover (flags : Flags) : Call S (List Xid) := do
  note .debug ("recovering flag " ++ flags.text) Record.branches
  return []

/-- The time limit of a transaction in seconds; there is none. -/
def transactionTimeout (_ : Participant) : Nat := 0

/-- Whether a time limit was set, which is not supported. -/
def setTransactionTimeout (seconds : Nat) : Call S Bool := do
  note .debug ("setting timeout seconds " ++ toString seconds) Record.branches
  return false

/-- Whether two participants belong to one resource manager.  No two do, so each gets a branch of
its own. -/
def isSameManager (_ _ : Participant) : Bool := false

end

section

variable {S : Type} [Backend S]

/-- Lists the recorded transformations when such details are logged. -/
def dumpTransformations : Call S Unit := do
  let e ← get
  if e.outside.log.keeps .debug then
    match ← job (e.participant.client.select Queries.allTransformations) with
    | .ok rows =>
      note .debug ("repository holds " ++ toString rows.length ++ " transformations")
      rows.forM fun row => note .debug ("  " ++ row.text)
    | .error f => note .warning ("cannot list transformations after commit: " ++ f.message)

/-- Commits a branch that may be committed. -/
def complete (x : Xid) : Call S Unit := do
  let p := (← get).participant
  match ← job (p.strategy.commit p.client p.journal.size) with
  | .error f =>
    note .error (notCommitted x p.journal) Record.audit
    throw (.resource x.text f)
  | .ok _ =>
    move fun branch => .ok branch.committed
    if 0 < p.journal.size then dumpTransformations

def commit (x : Xid) (onePhase : Bool) : Call S Unit := do
  note .debug ("commit transaction xid " ++ x.text ++ " (one phase: " ++
    (if onePhase then "true" else "false") ++ ")")
  decide (·.checkSuccess x)
  complete x

def rollback (x : Xid) : Call S Unit := do
  note .debug ("rollback transaction xid " ++ x.text)
  decide (·.check x)
  match ← job ((← get).participant.client.act .rollback) with
  | .error f =>
    note .error ("rollback of transaction " ++ x.text ++ " failed, nothing was committed: " ++
      f.message) Record.audit
  | .ok _ => pure ()
  move fun branch => .ok branch.rolledBack

end

end Participant

end GraphCommit
