import GraphCommit.Connection
import GraphCommit.Derivation.Run
import GraphCommit.Lock.Manager
import GraphCommit.Settings

/-!
# Connectors

A connector makes the managed connections to one main repository.  All of them share its lock, so
that their writes are serialized: a write takes the write lock and keeps it until the connection
is cleaned up, a query holds the read lock while it runs.  An accepted write goes into the journal
and into the audit trail before the call returns, a failed one into neither.

An access first asks for its lock and then does its work.  Between the two it may have to wait
while other calls go on, so the two halves are separate steps here: `ask` and `complete`.  A
caller that waits is served by `await`; an access of another thread is kept by the connector and
goes on by `settle` as soon as the lock lets it.
-/

namespace GraphCommit

/-- What a caller does on a connection under the repository lock. -/
inductive Access where
  | write (w : Write)
  | select (query : String)
  deriving DecidableEq, Repr

/-- The lock that an access needs. -/
def Access.mode : Access → Lock.Mode
  | write _ => .exclusive
  | select _ => .shared

/-- What an access returns. -/
inductive Reply where
  | done
  | rows (rows : List Row)
  deriving DecidableEq, Repr

/-- Why an operation does not succeed. -/
inductive Halt where
  | fault (f : Fault)
  /-- It waits for a lock without a time limit, and nobody is left to release it. -/
  | blocked

/-- An access of another thread that waits for its lock. -/
structure Pending where
  thread : String
  ticket : Nat
  connection : Nat
  access : Access
  deriving Repr

/-- A connector with the connections that it has made and everything that they share. -/
structure Connector (S : Type) where
  settings : Settings
  locks : LockManager
  outside : Outside S
  /-- Whether there is a working repository to derive transformations in. -/
  hasWorking : Bool
  connections : List Connection := []
  notices : List Notice := []
  pending : List Pending := []
  /-- The accesses of other threads that have ended. -/
  ended : List (String × Except Fault Reply) := []

namespace Connector

/-- An operation of a connector. -/
abbrev Run (S α : Type) := ExceptT Halt (StateM (Connector S)) α

section

variable {S α : Type}

/-- A connector with checked settings.  Without deriving, a working repository is left alone. -/
def open_ (settings : Settings) (files : Files) (outside : Outside S) (working : Bool) :
    Except Fault (Connector S) :=
  match settings.validate files with
  | .error e => .error e.fault
  | .ok settings =>
    .ok {
      settings
      locks := { timeout := settings.timeout }
      outside
      hasWorking := working && settings.derive }

def note (level : Level) (target message : String) : Run S Unit :=
  modify fun c => { c with outside := c.outside.note level target message }

def fail (f : Fault) : Run S α := throw (.fault f)

/-- A job on the stores and the log. -/
def job (j : Job S α) : Run S α := fun c =>
  let (result, outside) := j c.outside
  (result.mapError .fault, { c with outside })

/-- The result of an operation, be it a fault.  An operation that never returns has none. -/
def observe (r : Run S α) : Run S (Except Fault α) := fun c =>
  match r c with
  | (.ok a, c) => (.ok (.ok a), c)
  | (.error (.fault f), c) => (.ok (.error f), c)
  | (.error .blocked, c) => (.error .blocked, c)

def connection (c : Connector S) (i : Nat) : Connection := c.connections.getD i default

def connectionAt (i : Nat) : Run S Connection := return (← get).connection i

/-- Changes a connection. -/
def update (i : Nat) (f : Connection → Connection) : Run S Unit :=
  modify fun c => { c with connections := c.connections.modify i f }

/-! ## Connections and handles -/

/-- Puts a connected client under management. -/
def manage (client : ClientId) (strategy : Strategy) : Run S Nat := do
  let c ← get
  let (holder, locks) := c.locks.register
  let connection : Connection :=
    { holder, participant := { client, strategy }, derives := c.hasWorking }
  set { c with locks, connections := c.connections ++ [connection] }
  note .debug Record.connections ("created managed connection " ++ holder.text)
  return c.connections.length

/-- A handle of a connection: the one that is valid, or else a new one. -/
def getHandle (i : Nat) : Run S Handle := do
  let (token, isNew, connection) := (← connectionAt i).token
  if isNew then
    note .debug Record.connections
      ("handing out a new connection handle of " ++ connection.holder.text)
  update i fun c => c.token.2.2
  return ⟨i, token⟩

def isValid (c : Connector S) (h : Handle) : Bool :=
  (c.connection h.connection).tokens.isValid h.token

/-- A handle as it shows itself. -/
def handleText (c : Connector S) (h : Handle) : String :=
  "ConnectionHandle \x7b connection: HolderId(" ++
    toString (c.connection h.connection).holder.number ++ "), valid: " ++
    (if c.isValid h then "true" else "false") ++ " \x7d"

/-- The connection of a handle that is still valid. -/
def through (h : Handle) : Run S Nat := do
  if (← get).isValid h then return h.connection else fail .handleInvalidated

def invalidate (h : Handle) : Run S Unit := update h.connection (·.invalidate h.token)

def addListener (i : Nat) (l : Listener) : Run S Unit := update i (·.listen l)

def removeListener (i : Nat) (l : Listener) : Run S Unit := update i (·.unlisten l)

/-! ## The lock -/

/-- Asks for a lock on behalf of a connection. -/
def ask (i : Nat) (mode : Lock.Mode) : Run S Lock.Answer := do
  let c ← get
  let holder := (c.connection i).holder
  let (answer, locks) := c.locks.lock holder mode
  set { c with locks }
  if answer = .refused then
    note .error Record.locks
      ("Attempt to lock to write when there is the read lock (" ++ holder.text ++ ")")
  return answer

def unlockRead (i : Nat) : Run S Unit := do
  let holder := (← connectionAt i).holder
  modify fun c => { c with locks := c.locks.unlockRead holder }

def unlockAll (i : Nat) : Run S Unit := do
  let holder := (← connectionAt i).holder
  modify fun c => { c with locks := c.locks.unlockAll holder }

/-- The time limit of a waiting call is over. -/
def expire (call : Lock.Call) : Run S Unit := do
  let c ← get
  let locks := c.locks.expire call
  set { c with locks }
  if locks.gaveUp.contains call.ticket then
    note .debug Record.locks (call.holder.text ++ " gave up waiting for the repository lock")

/-- The time limit of the oldest waiting call is over. -/
def expireOldest : Run S Unit := do
  match (← get).locks.waiting with
  | [] => return ()
  | call :: _ => expire call

/-- How a call that waits no longer has ended. -/
def outcome (c : Connector S) (ticket : Nat) : Except Fault Unit :=
  if c.locks.gaveUp.contains ticket then .error (.lockTimeout (c.locks.timeout.getD ⟨0⟩))
  else .ok ()

end

section

variable {S : Type} [Backend S]

/-! ## Accesses -/

/-- Performs a write under the write lock.  An accepted write goes into the audit trail and into
the journal. -/
def perform (i : Nat) (w : Write) : Run S Unit := do
  job ((← connectionAt i).client.write w)
  note .info Record.audit ("operation added: " ++ w.text)
  update i (·.append w)

/-- Puts a query under the read lock. -/
def query (i : Nat) (text : String) : Run S (Except Fault (List Row)) := do
  observe (job ((← connectionAt i).client.select text))

/-- The second half of an access, when its lock is granted. -/
def complete (i : Nat) : Access → Run S Reply
  | .write w => do
    perform i w
    return .done
  | .select text => do
    let result ← query i text
    unlockRead i
    match result with
    | .ok rows => return .rows rows
    | .error f => fail f

/-- The second half of a pending access whose call for the lock has returned. -/
def resume (p : Pending) : Run S Reply := do
  match (← get).outcome p.ticket with
  | .ok _ => complete p.connection p.access
  | .error f => fail f

/-- Lets one pending access that waits no longer go on, and puts its result with the ended ones. -/
def settleOne (c : Connector S) : Connector S :=
  match c.pending.find? (fun p => !c.locks.isWaiting p.ticket) with
  | none => c
  | some p =>
    let rest := c.pending.filter (fun q => q.ticket != p.ticket)
    match observe (resume p) { c with pending := rest } with
    | (.ok result, c) => { c with ended := c.ended ++ [(p.thread, result)] }
    | (.error _, c) => c

/-- Takes a step the given number of times. -/
def repeatedly (step : Connector S → Connector S) : Nat → Connector S → Connector S
  | 0, c => c
  | n + 1, c => repeatedly step n (step c)

/-- Lets every pending access that the lock lets through go on. -/
def settle (c : Connector S) : Connector S := repeatedly settleOne c.pending.length c

/-- Lets the time limits of waiting calls run out, the oldest first, until a call has returned. -/
def elapse (ticket : Nat) : Nat → Run S Unit
  | 0 => return ()
  | n + 1 => do
    modify settle
    let c ← get
    if c.locks.isWaiting ticket then
      if c.locks.timeout.isNone then throw .blocked
      expireOldest
      elapse ticket n

/-- Waits until a call for a lock has returned. -/
def await : Lock.Answer → Run S Unit
  | .granted => return ()
  | .refused => fail .lockUpgrade
  | .waiting ticket => do
    elapse ticket ((← get).locks.waiting.length + 1)
    match (← get).outcome ticket with
    | .ok _ => return ()
    | .error f => fail f

/-- Asks for a lock and waits for it. -/
def acquire (i : Nat) (mode : Lock.Mode) : Run S Unit := do await (← ask i mode)

/-- An access by a caller that waits for it. -/
def access (i : Nat) (a : Access) : Run S Reply := do
  acquire i a.mode
  complete i a

/-- An access through a handle. -/
def accessThrough (h : Handle) (a : Access) : Run S Reply := do access (← through h) a

/-- An access by another thread: it goes on at once if it can and is kept otherwise. -/
def spawn (thread : String) (i : Nat) (a : Access) : Run S Unit := do
  match ← ask i a.mode with
  | .waiting ticket =>
      modify fun c => { c with pending := c.pending ++ [⟨thread, ticket, i, a⟩] }
  | answer =>
    let result ← observe do
      await answer
      complete i a
    modify fun c => { c with ended := c.ended ++ [(thread, result)] }

/-- An access by another thread through a handle, which ends at once if the handle is not valid. -/
def spawnThrough (thread : String) (h : Handle) (a : Access) : Run S Unit := do
  match ← observe (through h) with
  | .ok i => spawn thread i a
  | .error f => modify fun c => { c with ended := c.ended ++ [(thread, .error f)] }

/-- Whether the access of a thread has ended. -/
def hasEnded (c : Connector S) (thread : String) : Bool := (c.ended.lookup thread).isSome

/-- Waits for the access of a thread. -/
def join (thread : String) : Run S Reply := do
  match (← get).pending.find? (fun p => p.thread == thread) with
  | some p =>
    elapse p.ticket ((← get).locks.waiting.length + 1)
    modify settle
  | none => pure ()
  let c ← get
  set { c with ended := c.ended.filter (fun e => e.1 != thread) }
  match c.ended.lookup thread with
  | some (.ok reply) => return reply
  | some (.error f) => fail f
  | none => throw .blocked

/-! ## Events, cleaning and closing -/

/-- Returns a connection to its pristine state.  That the client cannot be invalidated is reported,
but everything else is done all the same. -/
def cleanup (i : Nat) : Run S Unit := do
  let connection ← connectionAt i
  note .debug Record.connections ("cleaning " ++ connection.holder.text)
  update i Connection.reset
  let invalidated ← observe (job (connection.client.act .invalidate))
  unlockAll i
  match invalidated with
  | .ok _ => return ()
  | .error f =>
    note .warning Record.connections
      ("cannot invalidate the client of " ++ connection.holder.text ++ ": " ++ f.message)
    fail f

/-- Closes the client of a connection for good. -/
def destroy (i : Nat) : Run S Unit := do
  let connection ← connectionAt i
  note .debug Record.connections ("destroying " ++ connection.holder.text)
  job (connection.client.act .disconnect)

def hear (n : Notice) : Run S Unit := modify fun c => { c with notices := c.notices ++ [n] }

/-- Tells a listener, which may answer by cleaning a connection. -/
def tell (kind : EventKind) (holder : Holder) (error : Option String) (l : Listener) :
    Run S Unit := do
  hear (.heard l.id kind holder error)
  match l.cleans with
  | none => return ()
  | some other => hear (.cleaned l.id (← observe (cleanup other)))

/-- Tells the listeners of a connection, in the order of their registration. -/
def sendEvent (i : Nat) (kind : EventKind) (error : Option String) : Run S Unit := do
  let connection ← connectionAt i
  connection.listeners.forM (tell kind connection.holder error)

/-- Derives the transformations of a context under the write lock. -/
def derive (i : Nat) (context : String) (writes : List Write) : Run S Derivation.Report := do
  job (Derivation.run (← connectionAt i).client context writes)

/-- Derives the transformations of the service that a branch registered, if that is all it did. -/
def materialize (i : Nat) : Run S (Option Derivation.Report) := do
  let connection ← connectionAt i
  match connection.derivedContext? with
  | none => return none
  | some context =>
    acquire i .exclusive
    some <$> derive i context connection.journal.writes

/-- Logs that transformations could not be derived. -/
def noteDerivation (i : Nat) : Except Fault (Option Derivation.Report) → Run S Unit
  | .ok _ => return ()
  | .error f => do
    note .error Record.connections
      ("cannot derive transformations on release of " ++ (← connectionAt i).holder.text ++ ": "
        ++ f.message)

/-- Ends a release.  The listeners hear of it even if the transformations could not be derived. -/
def announce (i : Nat) (derived : Except Fault (Option Derivation.Report)) :
    Run S (Option Derivation.Report) := do
  noteDerivation i derived
  sendEvent i .closed none
  match derived with
  | .ok report => return report
  | .error f => fail f

/-- Releases a connection whose handle was closed. -/
def release (i : Nat) : Run S (Option Derivation.Report) := do
  note .debug Record.connections ("releasing " ++ (← connectionAt i).holder.text)
  announce i (← observe (materialize i))

/-- Logs that a connection is released because of a fault. -/
def noteError (i : Nat) (f : Fault) : Run S Unit := do
  note .debug Record.connections
    ("releasing " ++ (← connectionAt i).holder.text ++ " with error: " ++ f.message)

/-- Releases a connection because of a fault. -/
def releaseWithError (i : Nat) (f : Fault) : Run S Unit := do
  noteError i f
  sendEvent i .errorOccurred (some f.message)

/-- Closes a handle. -/
def close (h : Handle) : Run S Unit := do
  let i ← through h
  invalidate h
  let _ ← release i

/-- Makes a managed connection with a new client. -/
def connect : Run S Nat := do
  let client ← job (Job.call Backend.create)
  let i ← manage client (Strategy.ofDurability (← job client.durability))
  note .debug Record.connectors
    ("connector created managed connection " ++ (← connectionAt i).holder.text)
  return i

/-- A call of the coordinator on the participant of a connection. -/
def coordinate {α : Type} (i : Nat) (call : Participant.Call S α) :
    StateM (Connector S) (Except BranchFault α) := fun c =>
  let (result, e) := call ⟨(c.connection i).participant, c.outside⟩
  (result, { c with
    outside := e.outside
    connections := c.connections.modify i ({ · with participant := e.participant }) })

end

end Connector

end GraphCommit
