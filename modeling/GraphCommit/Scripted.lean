import GraphCommit.Backend

/-!
# Stores that follow a script

Stores without data, which record every call and answer as they were told: some calls fail, always
or a number of times, and queries have prepared answers.  A connector over such stores shows which
calls it makes and how it takes failures.  Writes are checked as little as possible: a context or
a component of a triple must hold a colon.
-/

namespace GraphCommit

namespace Scripted

/-- A call of a client or of a repository. -/
inductive Call where
  | act (a : Action)
  | select (query : String)
  | ask (query : String)
  | create
  | open_
  | shutDown
  deriving DecidableEq, Repr

namespace Call

/-- The name of a call and its arguments. -/
def words : Call → List String
  | act .connect => ["connect"]
  | act .disconnect => ["disconnect"]
  | act .commit => ["commit"]
  | act .rollback => ["rollback"]
  | act .flush => ["flush"]
  | act .invalidate => ["invalidate"]
  | act (.write (.addData url base context)) => ["add_rdf_data", url, base, context]
  | act (.write (.addTriple t context)) => ["add_triple", t.subject, t.predicate, t.object, context]
  | act (.write (.removeTriple t context)) =>
    ["remove_triple", t.subject, t.predicate, t.object, context]
  | act (.write (.clear context)) => ["clear_context", context]
  | act (.update text) => ["update", text]
  | select query => ["select", query]
  | ask query => ["ask", query]
  | create => ["create"]
  | open_ => ["open"]
  | shutDown => ["shut_down"]

def name (c : Call) : String := c.words.headD ""

end Call

/-- A failure of the calls of one name: after `skip` calls that pass, all calls fail, or as many as
`times` says. -/
structure Failure where
  fault : Fault
  skip : Nat := 0
  times : Option Nat := none
  deriving Repr, Inhabited

/-- Whether the next call fails, and what is left of the failure. -/
def Failure.next (f : Failure) : Bool × Failure :=
  if 0 < f.skip then (false, { f with skip := f.skip - 1 })
  else
    match f.times with
    | none => (true, f)
    | some 0 => (false, f)
    | some (n + 1) => (true, { f with times := some n })

/-- A script and the calls made so far. -/
structure Script where
  failures : List (String × Failure) := []
  selects : List (String × List Row) := []
  asks : List (String × Bool) := []
  calls : List Call := []
  deriving Repr, Inhabited

/-- Sets the value of a key in a list of pairs. -/
def setKey {α : Type} (key : String) (value : α) (pairs : List (String × α)) :
    List (String × α) :=
  (key, value) :: pairs.filter (fun p => p.1 != key)

namespace Script

def setFailure (s : Script) (name : String) (f : Failure) : Script :=
  { s with failures := setKey name f s.failures }

def removeFailure (s : Script) (name : String) : Bool × Script :=
  ((s.failures.lookup name).isSome,
    { s with failures := s.failures.filter (fun p => p.1 != name) })

def setRows (s : Script) (query : String) (rows : List Row) : Script :=
  { s with selects := setKey query rows s.selects }

def setAnswer (s : Script) (query : String) (answer : Bool) : Script :=
  { s with asks := setKey query answer s.asks }

/-- Records a call, which passes or fails. -/
def enter (s : Script) (c : Call) : Except Fault Unit × Script :=
  let s := { s with calls := s.calls ++ [c] }
  match s.failures.lookup c.name with
  | none => (.ok (), s)
  | some failure =>
    let (fails, left) := failure.next
    let s := s.setFailure c.name left
    (if fails then .error failure.fault else .ok (), s)

end Script

def hasColon (text : String) : Bool := text.toList.contains ':'

/-- Refuses a triple for its first component without a colon. -/
def checkTriple (t : Triple) : Except Fault Unit :=
  match [t.subject, t.predicate, t.object].find? (fun part => !hasColon part) with
  | some part => .error (.tripleComponent part)
  | none => .ok ()

/-- Refuses a write for its context, then for its triple. -/
def checkWrite (w : Write) : Except Fault Unit :=
  if !hasColon w.context then .error (.contextName w.context)
  else
    match w with
    | .addTriple t _ => checkTriple t
    | .removeTriple t _ => checkTriple t
    | _ => .ok ()

/-- The kind of a scripted client: its durability, and whether it leaves flushing and invalidating
to what every client does. -/
inductive Kind where
  | onCommit
  | onShutdown
  | minimal
  deriving DecidableEq, Repr

def Kind.durability : Kind → Durability
  | onShutdown => .onShutdown
  | _ => .onCommit

namespace Script

/-- An action of a client of the given kind.  A minimal client has nothing to flush, and is
invalidated by disconnecting. -/
def act (s : Script) (kind : Kind) (a : Action) : Except Fault Unit × Script :=
  match kind, a with
  | .minimal, .flush => (.ok (), s)
  | .minimal, .invalidate => s.enter (.act .disconnect)
  | _, .write w =>
    match s.enter (.act (.write w)) with
    | (.ok _, s) => (checkWrite w, s)
    | failed => failed
  | _, a => s.enter (.act a)

def select (s : Script) (query : String) : Except Fault (List Row) × Script :=
  match s.enter (.select query) with
  | (.ok _, s) => (.ok ((s.selects.lookup query).getD []), s)
  | (.error f, s) => (.error f, s)

def ask (s : Script) (query : String) : Except Fault Bool × Script :=
  match s.enter (.ask query) with
  | (.ok _, s) => (.ok ((s.asks.lookup query).getD true), s)
  | (.error f, s) => (.error f, s)

end Script

end Scripted

/-- Stores that follow scripts: one for the making of clients, one for the working repository and
its client, and one for each client of the main repository. -/
structure Scripted where
  factory : Scripted.Script := {}
  working : Scripted.Script := {}
  clients : List (Scripted.Kind × Scripted.Script) := []
  /-- The kind of the next client that is made. -/
  nextKind : Scripted.Kind := .onCommit
  deriving Repr, Inhabited

namespace Scripted

/-- The client of the working repository. -/
def workingClient : ClientId := ⟨0⟩

/-- The client of the main repository with the given index. -/
def mainClient (index : Nat) : ClientId := ⟨index + 1⟩

/-- The kind and the script of a client. -/
def client (s : Scripted) (k : ClientId) : Kind × Script :=
  match k.number with
  | 0 => (.onCommit, s.working)
  | n + 1 => s.clients.getD n (.onCommit, {})

/-- Replaces the script of a client. -/
def setScript (s : Scripted) (k : ClientId) (script : Script) : Scripted :=
  match k.number with
  | 0 => { s with working := script }
  | n + 1 => { s with clients := s.clients.modify n (fun c => (c.1, script)) }

/-- Adds a client of the main repository with an empty script. -/
def addClient (s : Scripted) (kind : Kind) : ClientId × Scripted :=
  (mainClient s.clients.length, { s with clients := s.clients ++ [(kind, {})] })

/-- An operation on the script of a client. -/
def onClient {α : Type} (s : Scripted) (k : ClientId)
    (f : Kind → Script → Except Fault α × Script) :
    Response Scripted α :=
  let (kind, script) := s.client k
  let (result, script) := f kind script
  ⟨result, s.setScript k script, []⟩

instance : Backend Scripted where
  durability s k := (s.client k).1.durability
  act s k a := s.onClient k fun kind script => script.act kind a
  select s k query := s.onClient k fun _ script => script.select query
  ask s k query := s.onClient k fun _ script => script.ask query
  create s :=
    let (result, factory) := s.factory.enter .create
    let s := { s with factory }
    match result with
    | .error f => .fail f s
    | .ok _ =>
      let (k, s) := s.addClient s.nextKind
      .ok k s
  openWorking s :=
    let (result, working) := s.working.enter .open_
    ⟨result.map fun _ => workingClient, { s with working }, []⟩
  shutDownWorking s :=
    let (result, working) := s.working.enter .shutDown
    ⟨result, { s with working }, []⟩

end Scripted

end GraphCommit
