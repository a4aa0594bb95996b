import GraphCommit.Connector
import GraphCommit.Proofs.Coordination

/-!
# Operations of a connector, piece by piece

While an operation of one connection is under way, others go on.  A `Task` says what a connection is
in the middle of, and the operations on tasks are the pieces of accesses and releases between which
others may act.

What a piece does to the things that the connections share is one equation on the `Core` of the
connector: its lock, its connections and its stores.  The log and the notices are left out, for no
decision is made from them.
-/

namespace GraphCommit

/-! ## Tasks -/

/-- What an operation does while it has the lock. -/
inductive Work where
  | write (w : Write)
  | select (query : String)
  /-- Derives the transformations of a context from the writes that described its service. -/
  | derive (context : String) (writes : List Write)
  deriving DecidableEq, Repr

/-- What a connection is in the middle of. -/
inductive Task where
  | idle
  /-- A call for the lock waits, or has returned without being looked at. -/
  | waiting (ticket : Nat) (work : Work)
  /-- The lock is granted and the work not done. -/
  | ready (work : Work)
  /-- A query is answered and its lock not released. -/
  | reading (result : Except Fault (List Row))
  /-- Transformations are derived, if there are any, and the connection is not released. -/
  | closing (derived : Except Fault (Option Derivation.Report))
  /-- Listeners have not been told yet. -/
  | telling (kind : EventKind) (error : Option String) (rest : List Listener)

def Task.isIdle : Task → Bool
  | .idle => true
  | _ => false

theorem Task.isIdle_iff {task : Task} : task.isIdle = true ↔ task = .idle := by
  cases task <;> simp [isIdle]

/-- The work of an access. -/
def Work.ofAccess : Access → Work
  | .write w => .write w
  | .select query => .select query

/-- The lock that work needs. -/
def Work.mode : Work → Lock.Mode
  | .select _ => .shared
  | _ => .exclusive

/-- What is left to do when work did not get its lock: an access has failed, and a release goes on
without transformations. -/
def Work.failed (f : Fault) : Work → Task
  | .derive .. => .closing (.error f)
  | _ => .idle

/-- What is left to do when a call for the lock was answered. -/
def Work.answered (work : Work) : Lock.Answer → Task
  | .granted => .ready work
  | .refused => work.failed .lockUpgrade
  | .waiting ticket => .waiting ticket work

/-- What is left to do for the listeners that are left. -/
def Task.told (kind : EventKind) (error : Option String) : List Listener → Task
  | [] => .idle
  | rest => .telling kind error rest

namespace Connector

variable {S : Type}

/-- Begins an access: asks for its lock. -/
def beginAccess (i : Nat) (a : Access) : Run S Task :=
  return (Work.ofAccess a).answered (← ask i a.mode)

/-- Begins a release: asks for the write lock if there is something to derive. -/
def beginRelease (i : Nat) : Run S Task := do
  let connection ← connectionAt i
  note .debug Record.connections ("releasing " ++ connection.holder.text)
  match connection.derivedContext? with
  | none => return .closing (.ok none)
  | some context =>
    return (Work.derive context connection.journal.writes).answered (← ask i .exclusive)

/-- Goes on after a call for the lock has returned. -/
def proceed (ticket : Nat) (work : Work) : Run S Task := do
  match (← get).outcome ticket with
  | .ok _ => return .ready work
  | .error f => return work.failed f

variable [Backend S]

/-- Does work under the lock that it needs. -/
def carryOut (i : Nat) : Work → Run S Task
  | .write w => do
    let _ ← observe (perform i w)
    return .idle
  | .select text => return .reading (← query i text)
  | .derive context writes => do
    let derived ← observe (derive i context writes)
    return .closing (derived.map some)

/-- Ends a query: releases its lock. -/
def endQuery (i : Nat) : Run S Task := do
  unlockRead i
  return .idle

/-- Ends a release but for the listeners. -/
def endRelease (i : Nat) (derived : Except Fault (Option Derivation.Report)) : Run S Task := do
  noteDerivation i derived
  return .told .closed none (← connectionAt i).listeners

/-- Ends a release because of a fault but for the listeners. -/
def endWithError (i : Nat) (f : Fault) : Run S Task := do
  noteError i f
  return .told .errorOccurred (some f.message) (← connectionAt i).listeners

/-- Tells the next listener of a released connection. -/
def tellNext (i : Nat) (kind : EventKind) (error : Option String) (l : Listener)
    (rest : List Listener) : Run S Task := do
  tell kind (← connectionAt i).holder error l
  return .told kind error rest

/-- Makes a managed connection with a new client and a strategy of its own. -/
def connectWith (strategy : Strategy) : Run S Nat := do
  manage (← job (Job.call Backend.create)) strategy

end Connector

/-! ## What the pieces do -/

/-- What the connections of a connector share, and the connections themselves. -/
structure Core (S : Type) where
  locks : LockManager
  connections : List Connection
  stores : S

namespace Core

variable {S : Type}

def connection (c : Core S) (i : Nat) : Connection := c.connections.getD i default

def size (c : Core S) : Nat := c.connections.length

def holder (c : Core S) (i : Nat) : Holder := (c.connection i).holder

/-- Changes a connection. -/
def update (c : Core S) (i : Nat) (f : Connection → Connection) : Core S :=
  { c with connections := c.connections.modify i f }

/-- Adds a connection with a holder of its own. -/
def enlist (c : Core S) (client : ClientId) (strategy : Strategy) (derives : Bool) : Core S :=
  { c with
    locks := c.locks.register.2
    connections := c.connections ++
      [{ holder := c.locks.register.1, participant := { client, strategy }, derives }] }

/-- Replaces the participant of a connection, and the stores. -/
def enact (c : Core S) (i : Nat) (p : Participant) (stores : S) : Core S :=
  { c.update i ({ · with participant := p }) with stores }

variable {c : Core S} {i j : Nat} {f : Connection → Connection}

theorem connection_update_self (hi : i < c.connections.length) :
    (c.update i f).connection i = f (c.connection i) := by
  simp [connection, update, List.getD_eq_getElem?_getD, hi]

theorem connection_update_ne (hij : j ≠ i) : (c.update i f).connection j = c.connection j := by
  simp [connection, update, List.getD_eq_getElem?_getD, hij.symm]

/-- What a change of a connection keeps is kept at every connection. -/
theorem connection_update_keeps {β : Type} (g : Connection → β) (hf : ∀ x, g (f x) = g x) :
    g ((c.update i f).connection j) = g (c.connection j) := by
  by_cases hij : j = i
  · subst hij
    by_cases hj : j < c.connections.length
    · rw [connection_update_self hj, hf]
    · simp [connection, update, List.getD_eq_getElem?_getD, hj]
  · rw [connection_update_ne hij]

theorem connection_enlist_of_lt {client : ClientId} {strategy : Strategy} {derives : Bool}
    (hj : j < c.size) : (c.enlist client strategy derives).connection j = c.connection j := by
  simp [connection, enlist, List.getD_eq_getElem?_getD, List.getElem?_append_left hj]

theorem connection_enlist_self {client : ClientId} {strategy : Strategy} {derives : Bool} :
    (c.enlist client strategy derives).connection c.size =
      { holder := c.locks.register.1, participant := { client, strategy }, derives } := by
  simp [connection, enlist, size, List.getD_eq_getElem?_getD]

/-- Beyond the last connection there is nothing but the default. -/
theorem connection_of_ge (hj : c.size ≤ j) : c.connection j = default := by
  simp [connection, List.getD_eq_getElem?_getD, List.getElem?_eq_none hj]

theorem size_update : (c.update i f).size = c.size := by
  simp [size, update]

theorem connection_enact_self {p : Participant} {t : S} (hi : i < c.size) :
    (c.enact i p t).connection i = { c.connection i with participant := p } :=
  connection_update_self hi

theorem connection_enact_ne {p : Participant} {t : S} (hij : j ≠ i) :
    (c.enact i p t).connection j = c.connection j :=
  connection_update_ne hij

theorem holder_enact {p : Participant} {t : S} : (c.enact i p t).holder j = c.holder j :=
  connection_update_keeps Connection.holder fun _ => rfl

theorem size_enact {p : Participant} {t : S} : (c.enact i p t).size = c.size := size_update

theorem size_enlist {client : ClientId} {strategy : Strategy} {derives : Bool} :
    (c.enlist client strategy derives).size = c.size + 1 := by
  simp [size, enlist]

/-- Replacing a participant by itself changes nothing. -/
theorem enact_self : c.enact i (c.connection i).participant c.stores = c := by
  have hsame : c.connections.modify i ({ · with participant := (c.connection i).participant }) =
      c.connections := by
    apply List.ext_getElem?
    intro j
    by_cases hij : i = j
    · subst hij
      cases hi : c.connections[i]? with
      | none => simp [hi]
      | some x =>
        have hx : c.connection i = x := by simp [connection, List.getD_eq_getElem?_getD, hi]
        simp [hi, hx]
    · simp [hij]
  rw [enact, update, hsame]

section

variable [Backend S]

/-- Makes a client, or tries to. -/
def create (c : Core S) : Core S := { c with stores := (Backend.create c.stores).state }

/-- Lets the client of a connection act. -/
def act (c : Core S) (i : Nat) (a : Action) : Core S :=
  { c with stores := (Backend.act c.stores (c.connection i).client a).state }

/-- Lets the client of a connection put a query. -/
def query (c : Core S) (i : Nat) (text : String) : Core S :=
  { c with stores := (Backend.select c.stores (c.connection i).client text).state }

/-- Writes, and adds an accepted write to the journal. -/
def perform (c : Core S) (i : Nat) (w : Write) : Core S :=
  if (Backend.act c.stores (c.connection i).client (.write w)).result.isOk then
    (c.act i (.write w)).update i (·.append w)
  else c.act i (.write w)

theorem perform_of_ok {w : Write}
    (hwrite : (Backend.act c.stores (c.connection i).client (.write w)).result = .ok ()) :
    c.perform i w = (c.act i (.write w)).update i (·.append w) := by
  simp [perform, hwrite, Except.isOk, Except.toBool]

theorem perform_of_error {w : Write} {f : Fault}
    (hwrite : (Backend.act c.stores (c.connection i).client (.write w)).result = .error f) :
    c.perform i w = c.act i (.write w) := by
  simp [perform, hwrite, Except.isOk, Except.toBool]

/-- Forgets the branch of a connection with its writes and its lock. -/
def clean (c : Core S) (i : Nat) : Core S :=
  { (c.act i .invalidate).update i Connection.reset with
    locks := c.locks.unlockAll (c.holder i) }

theorem size_perform {w : Write} : (c.perform i w).size = c.size := by
  unfold perform
  split
  · exact size_update
  · rfl

theorem locks_perform {w : Write} : (c.perform i w).locks = c.locks := by
  unfold perform
  split <;> rfl

theorem holder_perform {w : Write} : (c.perform i w).holder j = c.holder j := by
  unfold perform
  split
  · exact connection_update_keeps (c := c.act i (.write w)) Connection.holder fun _ => rfl
  · rfl

theorem holder_clean : (c.clean i).holder j = c.holder j :=
  connection_update_keeps (c := c.act i .invalidate) Connection.holder fun _ => rfl

theorem size_clean : (c.clean i).size = c.size := size_update (c := c.act i .invalidate)

theorem connection_clean_self (hi : i < c.size) :
    (c.clean i).connection i = (c.connection i).reset :=
  connection_update_self (c := c.act i .invalidate) hi

theorem connection_clean_ne (hij : j ≠ i) : (c.clean i).connection j = c.connection j :=
  connection_update_ne (c := c.act i .invalidate) hij

theorem connection_perform_ne {w : Write} (hij : j ≠ i) :
    (c.perform i w).connection j = c.connection j := by
  unfold perform
  split
  · exact connection_update_ne (c := c.act i (.write w)) hij
  · rfl

/-- An accepted write is added to the journal, a refused one changes no connection. -/
theorem connection_perform_self {w : Write} (hi : i < c.size) :
    (c.perform i w).connection i = (c.connection i).append w ∧
      (Backend.act c.stores (c.connection i).client (.write w)).result = .ok () ∨
    (c.perform i w).connection i = c.connection i ∧
      ∃ f, (Backend.act c.stores (c.connection i).client (.write w)).result = .error f := by
  cases hwrite : (Backend.act c.stores (c.connection i).client (.write w)).result with
  | error f =>
    right
    rw [perform_of_error hwrite]
    exact ⟨rfl, f, rfl⟩
  | ok _ =>
    left
    rw [perform_of_ok hwrite]
    exact ⟨connection_update_self (c := c.act i (.write w)) hi, rfl⟩

end

end Core

namespace Connector

variable {S α β : Type}

/-- The lock, the connections and the stores of a connector. -/
def core (c : Connector S) : Core S := ⟨c.locks, c.connections, c.outside.stores⟩

/-! ### Steps of operations -/

@[simp] theorem note_apply (level : Level) (target message : String) (c : Connector S) :
    note level target message c =
      (.ok (), { c with outside := c.outside.note level target message }) := rfl

@[simp] theorem connectionAt_apply (i : Nat) (c : Connector S) :
    connectionAt i c = (.ok (c.connection i), c) := rfl

@[simp] theorem update_apply (i : Nat) (f : Connection → Connection) (c : Connector S) :
    update i f c = (.ok (), { c with connections := c.connections.modify i f }) := rfl

@[simp] theorem hear_apply (n : Notice) (c : Connector S) :
    hear n c = (.ok (), { c with notices := c.notices ++ [n] }) := rfl

@[simp] theorem unlockAll_apply (i : Nat) (c : Connector S) :
    unlockAll i c = (.ok (), { c with locks := c.locks.unlockAll (c.connection i).holder }) := rfl

@[simp] theorem job_apply (j : Job S α) (c : Connector S) :
    job j c = ((j c.outside).1.mapError .fault, { c with outside := (j c.outside).2 }) := rfl

@[simp] theorem observe_job_apply (j : Job S α) (c : Connector S) :
    observe (job j) c = (.ok (j c.outside).1, { c with outside := (j c.outside).2 }) := by
  simp only [observe, job_apply]
  cases (j c.outside).1 <;> rfl

/-! ### Pieces -/

/-- An operation returns a value and leaves the given core behind. -/
def Yields (r : Run S α) (c : Connector S) (a : α) (k : Core S) : Prop :=
  ∃ d, r c = (.ok a, d) ∧ d.core = k

/-- An operation returns, be it with a fault, and leaves the given core behind. -/
def Ends (r : Run S α) (c : Connector S) (k : Core S) : Prop :=
  ∃ d, d.core = k ∧ ((∃ a, r c = (.ok a, d)) ∨ ∃ f, r c = (.error (.fault f), d))

theorem Ends.core {r : Run S α} {c : Connector S} {k : Core S} (hr : Ends r c k) :
    (r c).2.core = k := by
  obtain ⟨d, hcore, ⟨a, hd⟩ | ⟨f, hd⟩⟩ := hr <;> rw [hd] <;> exact hcore

/-- An operation that returns does so when its result is observed, and leaves the same behind. -/
theorem Ends.observe {r : Run S α} {c : Connector S} {k : Core S} (hr : Ends r c k) :
    ∃ result, Yields (observe r) c result k := by
  obtain ⟨d, hcore, ⟨a, hd⟩ | ⟨f, hd⟩⟩ := hr
  · exact ⟨.ok a, d, by simp only [Connector.observe, hd], hcore⟩
  · exact ⟨.error f, d, by simp only [Connector.observe, hd], hcore⟩

theorem yields_ask (i : Nat) (mode : Lock.Mode) (c : Connector S) :
    Yields (ask i mode) c (c.core.locks.lock (c.core.holder i) mode).1
      { c.core with locks := (c.core.locks.lock (c.core.holder i) mode).2 } := by
  obtain ⟨answer, locks, hlock⟩ :
      ∃ answer locks, c.locks.lock (c.connection i).holder mode = (answer, locks) := ⟨_, _, rfl⟩
  change Yields _ c (c.locks.lock (c.connection i).holder mode).1
    { c.core with locks := (c.locks.lock (c.connection i).holder mode).2 }
  simp only [Yields, ask, Effect.bind_apply, Effect.get_apply, hlock, Effect.set_apply]
  by_cases hrefused : answer = .refused
  · simp only [if_pos hrefused, Effect.bind_apply, note_apply]
    exact ⟨_, rfl, rfl⟩
  · simp only [if_neg hrefused]
    exact ⟨_, rfl, rfl⟩

theorem yields_beginAccess (i : Nat) (a : Access) (c : Connector S) :
    Yields (beginAccess i a) c
      ((Work.ofAccess a).answered (c.core.locks.lock (c.core.holder i) a.mode).1)
      { c.core with locks := (c.core.locks.lock (c.core.holder i) a.mode).2 } := by
  obtain ⟨d, hd, hcore⟩ := yields_ask i a.mode c
  exact ⟨d, by simp only [beginAccess, Effect.bind_apply, hd, Effect.pure_apply], hcore⟩

/-- A release asks for the lock only if there is something to derive. -/
theorem yields_beginRelease (i : Nat) (c : Connector S) :
    ((c.core.connection i).derivedContext? = none ∧
      Yields (beginRelease i) c (.closing (.ok none)) c.core) ∨
    ∃ context, (c.core.connection i).derivedContext? = some context ∧ Yields (beginRelease i) c
      ((Work.derive context (c.core.connection i).journal.writes).answered
        (c.core.locks.lock (c.core.holder i) .exclusive).1)
      { c.core with locks := (c.core.locks.lock (c.core.holder i) .exclusive).2 } := by
  cases hcontext : (c.connection i).derivedContext? with
  | none =>
    refine Or.inl ⟨hcontext, ?_⟩
    simp only [Yields, beginRelease, Effect.bind_apply, connectionAt_apply, note_apply, hcontext]
    exact ⟨_, rfl, rfl⟩
  | some context =>
    right
    -- the connector writes to the log before it calls for the lock
    have hnoted := note_apply .debug Record.connections
      ("releasing " ++ (c.connection i).holder.text) c
    obtain ⟨d, hd, hcore⟩ := yields_ask i .exclusive
      (note .debug Record.connections ("releasing " ++ (c.connection i).holder.text) c).2
    rw [hnoted] at hd
    refine ⟨context, hcontext, d, ?_, hcore⟩
    simp only [beginRelease, Effect.bind_apply, connectionAt_apply, note_apply, hcontext, hd]
    rfl

/-- A call that returned was let through or gave up. -/
theorem yields_proceed (ticket : Nat) (work : Work) (c : Connector S) :
    Yields (proceed ticket work) c
      (if ticket ∈ c.core.locks.gaveUp then
        work.failed (.lockTimeout (c.core.locks.timeout.getD ⟨0⟩))
      else .ready work) c.core := by
  simp only [Yields, proceed, Effect.bind_apply, Effect.get_apply, outcome]
  by_cases hgave : ticket ∈ c.locks.gaveUp
  · simp only [List.contains_iff_mem.mpr hgave, if_true]
    exact ⟨c, by rw [if_pos (show ticket ∈ c.core.locks.gaveUp from hgave)]; rfl, rfl⟩
  · have hcontains : c.locks.gaveUp.contains ticket = false := by simpa using hgave
    simp only [hcontains]
    exact ⟨c, by rw [if_neg (show ¬ ticket ∈ c.core.locks.gaveUp from hgave)]; rfl, rfl⟩

theorem yields_endQuery (i : Nat) (c : Connector S) :
    Yields (endQuery i) c .idle
      { c.core with locks := c.core.locks.unlockRead (c.core.holder i) } := ⟨_, rfl, rfl⟩

theorem yields_endRelease (i : Nat) (derived : Except Fault (Option Derivation.Report))
    (c : Connector S) :
    Yields (endRelease i derived) c (.told .closed none (c.core.connection i).listeners)
      c.core := by
  cases derived <;> exact ⟨_, rfl, rfl⟩

theorem yields_endWithError (i : Nat) (f : Fault) (c : Connector S) :
    Yields (endWithError i f) c
      (.told .errorOccurred (some f.message) (c.core.connection i).listeners) c.core :=
  ⟨_, rfl, rfl⟩

theorem getHandle_core (i : Nat) (c : Connector S) :
    (getHandle i c).2.core = c.core.update i fun x => x.token.2.2 := by
  unfold getHandle
  rw [Effect.bind_apply, connectionAt_apply]
  simp only
  rcases (c.connection i).token with ⟨token, isNew, connection⟩
  cases isNew with
  | false => rfl
  | true => rfl

theorem expire_core (call : Lock.Call) (c : Connector S) :
    (expire call c).2.core = { c.core with locks := c.core.locks.expire call } := by
  simp only [expire, Effect.bind_apply, Effect.get_apply, Effect.set_apply]
  split
  · rfl
  · rfl

theorem yields_manage (client : ClientId) (strategy : Strategy) (c : Connector S) :
    Yields (manage client strategy) c c.connections.length
      (c.core.enlist client strategy c.hasWorking) := by
  simp only [Yields, manage, Effect.bind_apply, Effect.get_apply, Effect.set_apply, note_apply]
  exact ⟨_, rfl, rfl⟩

section

variable [Backend S]

/-- Cleaning does all it has to do even if the client cannot be invalidated. -/
theorem cleanup_ends (i : Nat) (c : Connector S) : Ends (cleanup i) c (c.core.clean i) := by
  have hholder : (c.core.update i Connection.reset).holder i = c.core.holder i :=
    Core.connection_update_keeps Connection.holder fun _ => rfl
  rw [Core.clean, ← hholder]
  simp only [Ends, cleanup, Effect.bind_apply, connectionAt_apply, note_apply, update_apply,
    observe_job_apply, unlockAll_apply, ClientId.act_apply]
  cases (Backend.act (c.outside.note .debug Record.connections
      ("cleaning " ++ (c.connection i).holder.text)).stores (c.connection i).client
      .invalidate).result with
  | error f => exact ⟨_, rfl, Or.inr ⟨f, rfl⟩⟩
  | ok _ => exact ⟨_, rfl, Or.inl ⟨(), rfl⟩⟩

/-- A listener that cleans nothing changes nothing. -/
theorem yields_tellNext (i : Nat) (kind : EventKind) (error : Option String) (l : Listener)
    (rest : List Listener) (c : Connector S) :
    Yields (tellNext i kind error l rest) c (.told kind error rest)
      (match l.cleans with
        | none => c.core
        | some other => c.core.clean other) := by
  simp only [Yields, tellNext, tell, Effect.bind_apply, connectionAt_apply, hear_apply]
  cases l.cleans with
  | none => exact ⟨_, rfl, rfl⟩
  | some other =>
    obtain ⟨result, d, hd, hcore⟩ := (cleanup_ends other
      (hear (.heard l.id kind (c.connection i).holder error) c).2).observe
    rw [hear_apply] at hd
    simp only [Effect.bind_apply, hd, hear_apply]
    exact ⟨_, rfl, hcore⟩

/-- A write that is refused leaves no trace in the journal. -/
theorem perform_ends (i : Nat) (w : Write) (c : Connector S) :
    Ends (perform i w) c (c.core.perform i w) := by
  simp only [Ends, perform, Effect.bind_apply, connectionAt_apply, job_apply, ClientId.write,
    ClientId.act_apply]
  cases hwrite : (Backend.act c.outside.stores (c.connection i).client (.write w)).result with
  | error f =>
    rw [Core.perform_of_error hwrite]
    exact ⟨_, rfl, Or.inr ⟨f, rfl⟩⟩
  | ok _ =>
    rw [Core.perform_of_ok hwrite]
    exact ⟨_, rfl, Or.inl ⟨(), rfl⟩⟩

theorem yields_carryOut_write (i : Nat) (w : Write) (c : Connector S) :
    Yields (carryOut i (.write w)) c .idle (c.core.perform i w) := by
  obtain ⟨result, d, hd, hcore⟩ := (perform_ends i w c).observe
  exact ⟨d, by simp only [carryOut, Effect.bind_apply, hd, Effect.pure_apply], hcore⟩

theorem yields_carryOut_select (i : Nat) (text : String) (c : Connector S) :
    Yields (carryOut i (.select text)) c
      (.reading (Backend.select c.core.stores (c.core.connection i).client text).result)
      (c.core.query i text) := by
  simp only [Yields, carryOut, query, Effect.bind_apply, connectionAt_apply, observe_job_apply,
    ClientId.select_apply]
  exact ⟨_, rfl, rfl⟩

/-- A derivation works on the stores only. -/
theorem yields_carryOut_derive (i : Nat) (context : String) (writes : List Write)
    (c : Connector S) :
    ∃ derived, Yields (carryOut i (.derive context writes)) c (.closing derived)
      { c.core with
        stores := (Derivation.run (c.connection i).client context writes c.outside).2.stores } := by
  have hderive : derive i context writes c =
      job (Derivation.run (c.connection i).client context writes) c := by
    simp only [derive, Effect.bind_apply, connectionAt_apply]
  obtain ⟨result, d, hd, hcore⟩ : ∃ result, Yields (observe (derive i context writes)) c result
      { c.core with
        stores := (Derivation.run (c.connection i).client context writes c.outside).2.stores } := by
    refine Ends.observe ?_
    rw [Ends, hderive, job_apply]
    cases (Derivation.run (c.connection i).client context writes c.outside).1 with
    | error f => exact ⟨_, rfl, Or.inr ⟨f, rfl⟩⟩
    | ok report => exact ⟨_, rfl, Or.inl ⟨report, rfl⟩⟩
  exact ⟨result.map some, d, by
    simp only [carryOut, Effect.bind_apply, hd, Effect.pure_apply], hcore⟩

/-! ### New connections -/

/-- A new connection gets the client that the stores have made for it, if they have made one. -/
theorem connectWith_cases (strategy : Strategy) (c : Connector S) :
    (connectWith strategy c).2.core = c.core.create ∨
    ∃ client, (Backend.create c.core.stores).result = .ok client ∧
      (connectWith strategy c).2.core = c.core.create.enlist client strategy c.hasWorking := by
  simp only [connectWith, Effect.bind_apply, job_apply, Job.call_apply]
  cases hcreate : (Backend.create c.outside.stores).result with
  | error f => exact Or.inl rfl
  | ok client => exact Or.inr ⟨client, hcreate, rfl⟩

/-- A connection whose strategy follows from the durability of its store. -/
theorem connect_cases (c : Connector S) :
    (connect c).2.core = c.core.create ∨
    ∃ client, (Backend.create c.core.stores).result = .ok client ∧
      (connect c).2.core = c.core.create.enlist client
        (.ofDurability (Backend.durability c.core.create.stores client)) c.hasWorking := by
  unfold connect
  rw [Effect.bind_apply, job_apply, Job.call_apply]
  cases hcreate : (Backend.create c.outside.stores).result with
  | error f => exact Or.inl rfl
  | ok client =>
    right
    refine ⟨client, hcreate, ?_⟩
    obtain ⟨d, hd, hcore⟩ := yields_manage client
      (.ofDurability (Backend.durability (Backend.create c.outside.stores).state client))
      { c with
        outside := ⟨(Backend.create c.outside.stores).state,
          c.outside.log.addAll (Backend.create c.outside.stores).records⟩ }
    dsimp only [Except.mapError]
    rw [Effect.bind_apply, job_apply, ClientId.durability]
    dsimp only [Except.mapError]
    rw [Effect.bind_apply, hd]
    exact hcore

/-! ### Calls of the coordinator -/

/-- What a call of the coordinator does to its connection and to the stores. -/
theorem coordinate_obeys (i : Nat) (command : Command) (c : Connector S) :
    ∃ p t, Participant.Obeys (c.core.connection i).participant c.core.stores command
        (coordinate i command.call c).1 p t ∧
      (coordinate i command.call c).2.core = c.core.enact i p t :=
  ⟨_, _, Participant.call_obeys command ⟨(c.connection i).participant, c.outside⟩, rfl⟩

end

end Connector

end GraphCommit
