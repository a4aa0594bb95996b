import GraphCommit.Branch.Xid
import GraphCommit.Fault

/-!
# The states of a transaction branch

A participant manages one branch at a time.  It adopts the branch with the first `start`, and the
coordinator then dissociates it by `end`, asks for its vote and completes it.  Every call names
the branch, and a call that names another one is refused.  Only a branch that was ended with
success can be prepared and committed.

The functions here are the decisions alone.  What a participant does to the store while it
completes a branch is said in `GraphCommit.Branch.Participant`.
-/

namespace GraphCommit

/-- Where a branch stands in the protocol. -/
inductive Phase where
  | idle
  | active
  | suspended
  | ended
  | prepared
  | committed
  | rolledBack
  deriving DecidableEq, Repr

/-- What a participant votes. -/
inductive Vote where
  /-- Something was written and has to be committed. -/
  | ok
  /-- Nothing was written, so nothing is left to do. -/
  | readOnly
  deriving DecidableEq, Repr

/-- The code that the X/Open standard gives to a vote. -/
def Vote.code : Vote → Int
  | ok => 0
  | readOnly => 3

/-- The branch of a participant: its identifier once it is adopted, whether it was last ended with
success, and its phase. -/
structure Branch where
  xid : Option Xid
  success : Bool
  phase : Phase
  deriving DecidableEq, Repr

namespace Branch

/-- No branch. -/
def idle : Branch := ⟨none, false, .idle⟩

instance : Inhabited Branch := ⟨idle⟩

/-- The refusal of a call that does not fit the managed branch. -/
def refusal (b : Branch) (x : Xid) : BranchFault := .protocol (b.xid.map Xid.text) x.text

/-- Whether a call names the managed branch. -/
def check (b : Branch) (x : Xid) : Except BranchFault Unit :=
  if b.xid = some x then .ok () else .error (b.refusal x)

/-- Adopts a branch, joins it or resumes it.  A branch is adopted only when there is none. -/
def start (b : Branch) (x : Xid) (flags : Flags) : Except BranchFault Branch :=
  if flags = Flags.none then
    if b.phase = .idle then .ok ⟨some x, false, .active⟩ else .error (b.refusal x)
  else if flags = Flags.resume ∨ flags = Flags.join then do
    b.check x
    return { b with phase := .active }
  else .error (.unsupportedFlag flags)

/-- Ends the work on a branch with success or failure, or suspends it. -/
def finish (b : Branch) (x : Xid) (flags : Flags) : Except BranchFault Branch := do
  b.check x
  if flags = Flags.success then return { b with success := true, phase := .ended }
  else if flags = Flags.fail then return { b with success := false, phase := .ended }
  else if flags = Flags.suspend then return { b with phase := .suspended }
  else throw (.unsupportedFlag flags)

/-- Whether a branch may be completed: it is the managed one and was ended with success. -/
def checkSuccess (b : Branch) (x : Xid) : Except BranchFault Unit := do
  b.check x
  if b.success then return () else throw (.rollbackOnly x.text)

/-- Votes.  A branch that wrote nothing is completed by that. -/
def prepare (b : Branch) (x : Xid) (wroteNothing : Bool) : Except BranchFault (Vote × Branch) := do
  b.checkSuccess x
  if wroteNothing then return (.readOnly, { b with phase := .committed })
  else return (.ok, { b with phase := .prepared })

def committed (b : Branch) : Branch := { b with phase := .committed }

def rolledBack (b : Branch) : Branch := { b with phase := .rolledBack }

end Branch

end GraphCommit
