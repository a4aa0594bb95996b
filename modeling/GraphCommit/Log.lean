/-!
# Log records

What the connector reports while it works.  A record has a level, a target that tells where it
comes from, and a message.  A log keeps the records, in order, that are at least as important as
its threshold; the audit trail is the target that operators read.
-/

namespace GraphCommit

/-- How important a record is. -/
inductive Level where
  | error
  | warning
  | info
  | debug
  deriving DecidableEq, Repr

def Level.rank : Level → Nat
  | error => 0
  | warning => 1
  | info => 2
  | debug => 3

def Level.text : Level → String
  | error => "ERROR"
  | warning => "WARN"
  | info => "INFO"
  | debug => "DEBUG"

structure Record where
  level : Level
  target : String
  message : String
  deriving DecidableEq, Repr

namespace Record

/-! ## Targets -/

/-- The audit trail: journaled writes, and branches that an operator has to look at. -/
def audit : String := "rdfxa::audit"
def branches : String := "rdfxa::twopc"
def participant : String := "rdfxa::participant"
def connections : String := "rdfxa::managed_connection"
def locks : String := "rdfxa::lock_manager"
def derivations : String := "rdfxa::materializer"
def commits : String := "rdfxa::commit_strategy"
def connectors : String := "rdfxa::connector"
def stores : String := "rdfxa::backend::oxigraph"

end Record

/-- The records that were kept, and the least important level that is kept. -/
structure Log where
  threshold : Option Level
  records : List Record
  deriving DecidableEq, Repr, Inhabited

namespace Log

/-- The log that keeps nothing. -/
def silent : Log := ⟨none, []⟩

/-- Whether records of a level are kept. -/
def keeps (log : Log) (level : Level) : Bool :=
  match log.threshold with
  | some t => level.rank ≤ t.rank
  | none => false

def add (log : Log) (r : Record) : Log :=
  if log.keeps r.level then { log with records := log.records ++ [r] } else log

def addAll (log : Log) (rs : List Record) : Log := rs.foldl add log

end Log

end GraphCommit
