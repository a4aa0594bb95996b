import GraphCommit.Branch.Flags
import GraphCommit.Duration

/-!
# What can go wrong

A `Fault` says why an operation on the repository failed, a `BranchFault` why a call of the
transaction coordinator was refused or failed.  Each may contain the other: a store can report the
failure of a branch that it completed itself, and a branch that cannot be completed carries the
store's failure.  The messages are written here and nowhere else.  A fault's `Category` tells the
caller what to do about it.
-/

namespace GraphCommit

/-- What a caller should do about a fault. -/
inductive Category where
  /-- Try again with different input. -/
  | invalidInput
  /-- The store or a document failed; roll the branch back. -/
  | backend
  /-- Coordinator and participant disagree about the branch. -/
  | protocol
  /-- The branch was marked to be rolled back. -/
  | rollbackOnly
  /-- Writes may have reached the store without being safe; an operator has to look. -/
  | operatorIntervention
  /-- The settings are wrong. -/
  | configuration
  deriving DecidableEq, Repr

mutual

/-- Why an operation on the repository failed. -/
inductive Fault where
  /-- The context is no absolute IRI. -/
  | contextName (context : String)
  /-- A component of a triple is no absolute IRI. -/
  | tripleComponent (component : String)
  /-- The query is not in the query language, or not of the form that is asked for. -/
  | malformedQuery (reason : Option String)
  /-- The document cannot be read. -/
  | download (url reason : String)
  /-- The document is not in its syntax. -/
  | parse (url : String) (reason : Option String)
  | connection (reason : String)
  | commit (reason : String)
  | rollback (reason : String)
  | flush (reason : String)
  /-- The handle was closed, or its connection cleaned up. -/
  | handleInvalidated
  /-- The write lock was asked for while the read lock was held. -/
  | lockUpgrade
  /-- The lock was not granted in time. -/
  | lockTimeout (waited : Duration)
  | derivation (reason : String)
  | settings (reason : String)
  | branch (fault : BranchFault)

/-- Why a call of the transaction coordinator was refused or failed. -/
inductive BranchFault where
  /-- The call names another branch than the managed one. -/
  | protocol (managed : Option String) (requested : String)
  | unsupportedFlag (flag : Flags)
  /-- The branch was not ended with success. -/
  | rollbackOnly (xid : String)
  /-- The store failed to complete the branch. -/
  | resource (xid : String) (cause : Fault)

end

deriving instance Repr for Fault, BranchFault

instance : Inhabited Fault := ⟨.handleInvalidated⟩

/-- A message with the reason that is known. -/
def withReason (text : String) (reason : Option String) : String :=
  match reason with
  | some r => text ++ ": " ++ r
  | none => text

mutual

def Fault.message : Fault → String
  | .contextName context => "Context `" ++ context ++ "` is not a valid URI"
  | .tripleComponent component => "RDF triple component `" ++ component ++ "` is not a valid URI"
  | .malformedQuery reason => withReason "Malformed SPARQL query" reason
  | .download url reason => "RDF data cannot be downloaded from " ++ url ++ ": " ++ reason
  | .parse url reason => withReason ("RDF data from " ++ url ++ " cannot be parsed") reason
  | .connection reason => "Semantic repository connection error: " ++ reason
  | .commit reason => "Commit error: " ++ reason
  | .rollback reason => "Rollback error: " ++ reason
  | .flush reason => "Flush error: " ++ reason
  | .handleInvalidated => "Connection handle has been invalidated"
  | .lockUpgrade => "Attempt to lock to write while holding the read lock"
  | .lockTimeout waited => "Timed out after " ++ waited.text ++ " waiting for the repository lock"
  | .derivation reason => "Materialization error: " ++ reason
  | .settings reason => "Invalid configuration: " ++ reason
  | .branch fault => fault.message

def BranchFault.message : BranchFault → String
  | .protocol managed requested =>
    "Resource manager manages branch " ++ managed.getD "<none>" ++ ", request was for " ++ requested
  | .unsupportedFlag flag => "Unsupported transaction flag: " ++ flag.text
  | .rollbackOnly xid => "Transaction branch " ++ xid ++ " is marked rollback-only"
  | .resource xid cause => "Resource manager error in branch " ++ xid ++ ": " ++ cause.message

end

mutual

def Fault.category : Fault → Category
  | .contextName _ | .tripleComponent _ | .malformedQuery _ => .invalidInput
  | .download .. | .parse .. | .connection _ | .rollback _ | .lockTimeout _ | .derivation _ =>
    .backend
  | .commit _ | .flush _ => .operatorIntervention
  | .handleInvalidated | .lockUpgrade => .protocol
  | .settings _ => .configuration
  | .branch fault => fault.category

/-- A branch that the store failed to complete is as grave as the store's own fault. -/
def BranchFault.category : BranchFault → Category
  | .protocol .. | .unsupportedFlag _ => .protocol
  | .rollbackOnly _ => .rollbackOnly
  | .resource _ cause => cause.category

end

namespace BranchFault

/-- The code that the X/Open standard gives to the failure of a call. -/
def code : BranchFault → Int
  | .protocol .. => -6
  | .unsupportedFlag _ => -5
  | .rollbackOnly _ => 100
  | .resource .. => -3

end BranchFault

mutual

/-- The messages of the faults behind a fault, nearest first.  A branch fault reported by a store
stands for itself, so only what is behind it is listed. -/
def Fault.causes : Fault → List String
  | .branch fault => fault.causes
  | _ => []

def BranchFault.causes : BranchFault → List String
  | .resource _ cause => cause.message :: cause.causes
  | _ => []

end

end GraphCommit
