import GraphCommit.Fault
import GraphCommit.Log
import GraphCommit.Row
import GraphCommit.Write

/-!
# What a connector needs of the stores

A connector works on stores that it knows only by what they answer.  Their whole state is one
value; a client is a number in it.  An `Action` of a client succeeds or fails, a query is
answered, and in each case the state moves on and records may be left for the log.  Writes are
seen by others only after a commit.  One repository, the working repository, is opened and shut
down for each derivation of transformations.

A `Job` is a computation over the stores and the log that may fail.  What it did before it failed
stays done.
-/

namespace GraphCommit

/-- How committed data come to survive a restart. -/
inductive Durability where
  /-- Data are durable as soon as a commit returns. -/
  | onCommit
  /-- Committed data reach the disk only when the store is shut down and initialized again. -/
  | onShutdown
  deriving DecidableEq, Repr

/-- The number of a client among all clients of the stores. -/
structure ClientId where
  number : Nat
  deriving DecidableEq, Repr, Inhabited

/-- What a client is told to do. -/
inductive Action where
  | connect
  /-- Closes the connection; pending writes are lost. -/
  | disconnect
  | commit
  | rollback
  /-- Brings committed data to the disk. -/
  | flush
  /-- Drops the connection after its managed connection was cleaned up. -/
  | invalidate
  | write (w : Write)
  /-- A request in the update language, carried out at once. -/
  | update (text : String)
  deriving DecidableEq, Repr

/-- What the stores answer, and what has become of them. -/
structure Response (S α : Type) where
  result : Except Fault α
  state : S
  records : List Record := []

namespace Response

def ok {S α : Type} (a : α) (state : S) (records : List Record := []) : Response S α :=
  ⟨.ok a, state, records⟩

def fail {S α : Type} (f : Fault) (state : S) (records : List Record := []) : Response S α :=
  ⟨.error f, state, records⟩

end Response

/-- Stores with the state `S`. -/
class Backend (S : Type) where
  durability : S → ClientId → Durability
  act : S → ClientId → Action → Response S Unit
  select : S → ClientId → String → Response S (List Row)
  ask : S → ClientId → String → Response S Bool
  /-- Makes a connected client of the main repository. -/
  create : S → Response S ClientId
  /-- Opens the working repository and makes a connected client of it. -/
  openWorking : S → Response S ClientId
  shutDownWorking : S → Response S Unit

/-- The stores and the log. -/
structure Outside (S : Type) where
  stores : S
  log : Log
  deriving Inhabited

/-- Adds a record to the log. -/
def Outside.note {S : Type} (outside : Outside S) (level : Level) (target message : String) :
    Outside S :=
  { outside with log := outside.log.add ⟨level, target, message⟩ }

/-- A computation over the stores and the log that may fail. -/
abbrev Job (S α : Type) := ExceptT Fault (StateM (Outside S)) α

namespace Job

variable {S α : Type}

/-- Puts a question to the stores and keeps what they report. -/
def call (question : S → Response S α) : Job S α := fun outside =>
  let response := question outside.stores
  (response.result, ⟨response.state, outside.log.addAll response.records⟩)

/-- Adds a record to the log. -/
def note (level : Level) (target message : String) : Job S Unit := fun outside =>
  (.ok (), outside.note level target message)

/-- Whether records of a level are kept. -/
def keeps (level : Level) : Job S Bool := fun outside => (.ok (outside.log.keeps level), outside)

/-- The result of a job, be it a fault. -/
def observe (job : Job S α) : Job S (Except Fault α) := fun outside =>
  let (result, outside) := job outside
  (.ok result, outside)

/-- A job whose fault is put into other words. -/
def relabel (f : Fault → Fault) (job : Job S α) : Job S α := fun outside =>
  let (result, outside) := job outside
  (result.mapError f, outside)

end Job

namespace ClientId

variable {S : Type} [Backend S]

def durability (k : ClientId) : Job S Durability := fun outside =>
  (.ok (Backend.durability outside.stores k), outside)

def act (k : ClientId) (a : Action) : Job S Unit := Job.call fun s => Backend.act s k a

def select (k : ClientId) (query : String) : Job S (List Row) :=
  Job.call fun s => Backend.select s k query

def ask (k : ClientId) (query : String) : Job S Bool := Job.call fun s => Backend.ask s k query

def write (k : ClientId) (w : Write) : Job S Unit := k.act (.write w)

end ClientId

end GraphCommit
