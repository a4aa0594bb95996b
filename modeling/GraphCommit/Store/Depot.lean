import GraphCommit.Backend
import GraphCommit.Document.Reading
import GraphCommit.Store.Engine

/-!
# Depots

A depot holds repositories and their clients.  A repository keeps its dataset in memory, where it is
lost when the repository is shut down, or in a directory, where it is found again; two repositories
cannot have one directory open at the same time.  It is opened when it is needed.

A client stages its writes.  A commit applies them to the dataset at once and in order; until then
nobody sees them.  Queries see committed data only, and update requests act on the dataset
directly.  Queries and requests are read and answered by an engine.

A transaction, which is a commit or an update request, may fail, and so may the flush with which a
directory is closed.  What they will meet with is part of a depot.  A transaction that fails changes
nothing; a repository that could not be flushed is closed all the same, with its data as they were.
-/

namespace GraphCommit

/-- Where an open repository has its dataset. -/
inductive Opened where
  | memory (data : Dataset)
  | directory (place : Files.Place)
  deriving DecidableEq, Repr

structure Repository where
  name : String
  /-- The directory, if the data are kept in one. -/
  path : Option String
  opened : Option Opened := none
  deriving DecidableEq, Repr, Inhabited

def Repository.durability (r : Repository) : Durability :=
  match r.path with
  | none => .onCommit
  | some _ => .onShutdown

structure Client where
  /-- The number of the client's repository. -/
  repository : Nat
  connected : Bool := false
  staged : List Staged := []
  deriving DecidableEq, Repr, Inhabited

structure Depot where
  files : Files
  /-- The datasets in directories. -/
  saved : List (Files.Place × Dataset) := []
  repositories : List Repository := []
  clients : List Client := []
  /-- The number of the next blank node. -/
  blanks : Nat := 0
  /-- What the next transactions meet with: nothing, or the reason why they fail.  Those beyond the
  end of the list meet with nothing. -/
  failures : List (Option String) := []
  /-- What the next flushes meet with. -/
  flushes : List (Option String) := []
  deriving Repr, Inhabited

/-- An operation on a depot, which may fail and may leave records for the log. -/
abbrev Depot.Work (α : Type) := ExceptT Fault (StateM (Depot × List Record)) α

namespace Depot

def repository (d : Depot) (r : Nat) : Repository := d.repositories.getD r default

def client (d : Depot) (k : Nat) : Client := d.clients.getD k default

/-- The dataset of a repository, if it is open. -/
def data? (d : Depot) (r : Nat) : Option Dataset :=
  match (d.repository r).opened with
  | none => none
  | some (.memory data) => some data
  | some (.directory place) => some ((d.saved.lookup place).getD .empty)

/-- Puts a dataset into a directory. -/
def save (d : Depot) (place : Files.Place) (data : Dataset) : Depot :=
  { d with saved := (place, data) :: d.saved.filter (fun entry => entry.1 != place) }

def setOpened (d : Depot) (r : Nat) (opened : Option Opened) : Depot :=
  { d with repositories := d.repositories.modify r ({ · with opened }) }

/-- Replaces the dataset of an open repository. -/
def setData (d : Depot) (r : Nat) (data : Dataset) : Depot :=
  match (d.repository r).opened with
  | none => d
  | some (.memory _) => d.setOpened r (some (.memory data))
  | some (.directory place) => d.save place data

/-- Whether some repository has a directory open. -/
def isInUse (d : Depot) (place : Files.Place) : Bool :=
  d.repositories.any fun r => r.opened == some (.directory place)

def updateClient (d : Depot) (k : Nat) (f : Client → Client) : Depot :=
  { d with clients := d.clients.modify k f }

/-- Adds a repository that is not open; its number comes with it. -/
def addRepository (d : Depot) (name : String) (path : Option String) : Nat × Depot :=
  (d.repositories.length, { d with repositories := d.repositories ++ [⟨name, path, none⟩] })

/-- Adds a client that is not connected. -/
def addClient (d : Depot) (repository : Nat) : Nat × Depot :=
  (d.clients.length, { d with clients := d.clients ++ [{ repository }] })

def dropClients (d : Depot) : Depot := { d with clients := [] }

/-- The reason why the next transaction fails, if it does. -/
def failure? (d : Depot) : Option String := d.failures.head?.join

/-- The depot once the next transaction has met with what it meets with. -/
def spend (d : Depot) : Depot := { d with failures := d.failures.tail }

/-- The reason why the next flush fails, if it does. -/
def flushFailure? (d : Depot) : Option String := d.flushes.head?.join

def spendFlush (d : Depot) : Depot := { d with flushes := d.flushes.tail }

namespace Work

def depot : Work Depot := return (← get).1

def modifyDepot (f : Depot → Depot) : Work Unit := modify fun s => (f s.1, s.2)

def setDepot (d : Depot) : Work Unit := modifyDepot fun _ => d

def note (level : Level) (message : String) : Work Unit :=
  modify fun s => (s.1, s.2 ++ [⟨level, Record.stores, message⟩])

/-- The response to a question that is put to a depot. -/
def respond {α : Type} (work : Work α) (d : Depot) : Response Depot α :=
  let (result, d, records) := work.run (d, [])
  ⟨result, d, records⟩

/-- Work whose fault is put into other words. -/
def relabel {α : Type} (f : Fault → Fault) (work : Work α) : Work α := fun s =>
  let (result, s) := work s
  (result.mapError f, s)

/-- A result that may be a fault. -/
def lift {α : Type} (result : Except Fault α) : Work α := fun s => (result, s)

/-- Something that may fail: what it meets with is looked up, and is then used up. -/
def attempt (failure? : Depot → Option String) (spend : Depot → Depot) (fault : String → Fault) :
    Work Unit := do
  let met := failure? (← depot)
  modifyDepot spend
  match met with
  | none => return ()
  | some reason => throw (fault reason)

def transact : (String → Fault) → Work Unit := attempt failure? spend

def flushOut : (String → Fault) → Work Unit := attempt flushFailure? spendFlush

end Work

open Depot.Work

/-! ## Repositories -/

/-- Opens a directory for a repository, making it if it is not there. -/
def openDirectory (r : Nat) (path : String) : Work Opened := do
  let d ← depot
  let name := (d.repository r).name
  match d.files.makeDirectories path with
  | .error e => throw (.connection ("cannot create " ++ path ++ ": " ++ e.message))
  | .ok files =>
    setDepot { d with files }
    match files.find path with
    | .ok (place, .directory) =>
      if d.isInUse place then throw (.connection ("cannot initialize repository " ++ name))
      return .directory place
    | _ => throw (.connection ("cannot initialize repository " ++ name))

/-- Opens a repository unless it is open. -/
def initialize_ (r : Nat) : Work Unit := do
  let repository := (← depot).repository r
  if repository.opened.isSome then return ()
  let opened ← match repository.path with
    | some path => openDirectory r path
    | none => pure (.memory .empty)
  note .debug ("initialized repository " ++ repository.name)
  modifyDepot (·.setOpened r (some opened))

/-- Closes a repository.  What it kept in memory is lost, what it has in a directory is flushed. -/
def shutDown (r : Nat) : Work Unit := do
  let repository := (← depot).repository r
  if repository.opened.isSome then
    modifyDepot (·.setOpened r none)
    if repository.path.isSome then
      flushOut fun reason =>
        .connection ("cannot flush repository " ++ repository.name ++ ": " ++ reason)
    note .debug ("shut down repository " ++ repository.name)

/-- The dataset of a repository, which is opened if it is not. -/
def data (r : Nat) : Work Dataset := do
  initialize_ r
  return ((← depot).data? r).getD .empty

/-- How many quads are committed. -/
def size (r : Nat) : Work Nat := return (← data r).size

/-! ## Clients -/

def newClient (r : Nat) : Work Nat := do
  let (k, d) := (← depot).addClient r
  setDepot d
  return k

/-- Opens the repository of a client. -/
def connect (k : Nat) : Work Unit := do
  initialize_ ((← depot).client k).repository
  modifyDepot (·.updateClient k ({ · with connected := true }))

/-- Makes a connected client. -/
def connectClient (r : Nat) : Work Nat := do
  initialize_ r
  let k ← newClient r
  connect k
  return k

/-- The dataset that a client works on.  A client that is not connected is connected first. -/
def clientData (k : Nat) : Work Dataset := do
  let client := (← depot).client k
  if !client.connected then connect k
  data client.repository

def nameOf (k : Nat) : Work String := do
  let d ← depot
  return (d.repository (d.client k).repository).name

/-- Drops the writes of a client. -/
def rollback (k : Nat) : Work Unit := modifyDepot (·.updateClient k ({ · with staged := [] }))

def disconnect (k : Nat) : Work Unit := do
  let count := ((← depot).client k).staged.length
  if count ≠ 0 then
    note .debug ("discarding " ++ toString count ++ " uncommitted writes to " ++ (← nameOf k))
  modifyDepot (·.updateClient k ({ · with staged := [], connected := false }))

def invalidate (k : Nat) : Work Unit := do
  let count := ((← depot).client k).staged.length
  if count ≠ 0 then
    note .warning
      ("invalidating a client of " ++ (← nameOf k) ++ " with " ++ toString count ++
        " uncommitted writes")
  disconnect k

/-- Applies the writes of a client to the dataset, all of them and in order. -/
def commit (k : Nat) : Work Unit := do
  let client := (← depot).client k
  if client.staged.isEmpty then return ()
  let before ← (clientData k).relabel fun f => .commit f.message
  transact .commit
  modifyDepot (·.setData client.repository (before.applyAll client.staged))
  note .debug
    ("committed " ++ toString client.staged.length ++ " writes to " ++ (← nameOf k))
  rollback k

/-- Brings what is committed to the disk, by closing the repository and opening it again. -/
def flush (k : Nat) : Work Unit := do
  let d ← depot
  let r := (d.client k).repository
  match (d.repository r).durability with
  | .onCommit => return ()
  | .onShutdown =>
    note .info ("flushing repository " ++ (← nameOf k) ++ " to disk")
    (shutDown r).relabel fun f => .flush ("shutdown failed: " ++ f.message)
    (initialize_ r).relabel fun f => .flush ("reinitialization failed: " ++ f.message)

/-! ## Writes -/

/-- The name of a graph, if it is an absolute IRI. -/
def context (text : String) : Except Fault String :=
  if Iri.isAbsolute text.toList then .ok text else .error (.contextName text)

def component (text : String) : Except Fault Term :=
  if Iri.isAbsolute text.toList then .ok (.iri text) else .error (.tripleComponent text)

/-- The quad that a triple makes in a context. -/
def quad (t : Triple) (contextName : String) : Except Fault Quad := do
  let graph ← context contextName
  let subject ← component t.subject
  let predicate ← component t.predicate
  let object ← component t.object
  return ⟨some graph, ⟨subject, predicate, object⟩⟩

/-- The statement with blank nodes that no other document has. -/
def renumbered (blanks : Nat) (s : Statement) : Statement :=
  { s with subject := s.subject.renumber (blanks + ·), object := s.object.renumber (blanks + ·) }

/-- The changes that a write stages, and how many new blank nodes are in them. -/
def changes [Document.Fetcher] (d : Depot) : Write → Except Fault (List Staged × Nat)
  | .addData url base contextName => do
    let graph ← context contextName
    let contents ← Document.read d.files url base
    return (contents.statements.map fun s => .insert ⟨some graph, renumbered d.blanks s⟩,
      contents.blanks)
  | .addTriple t contextName => do return ([.insert (← quad t contextName)], 0)
  | .removeTriple t contextName => do return ([.remove (← quad t contextName)], 0)
  | .clear contextName => do return ([.clear (← context contextName)], 0)

/-- Stages a write. -/
def write [Document.Fetcher] (k : Nat) (w : Write) : Work Unit := do
  let (staged, blanks) ← lift ((← depot).changes w)
  match w with
  | .addData url _ contextName =>
    note .debug
      ("staged " ++ toString staged.length ++ " triples from " ++ url ++ " into " ++ contextName)
  | _ => pure ()
  modifyDepot fun d =>
    { d.updateClient k (fun c => { c with staged := c.staged ++ staged }) with
      blanks := d.blanks + blanks }

/-! ## Queries -/

section

variable [Engine]

/-- The query that a text spells out.  It is about all graphs if it does not name any. -/
def query? (text : String) : Except Fault (Engine.Query) :=
  match Engine.readQuery? text with
  | some q => .ok (if Engine.leavesGraphsOpen q then Engine.overAll q else q)
  | none => .error (.malformedQuery none)

/-- The rows that a query is answered with from some quads, if it asks for rows. -/
def rowsOf (text : String) (q : Engine.Query) (quads : List Quad) : Except Fault (List Row) :=
  match Engine.evaluate q quads with
  | .error reason => .error (.connection reason)
  | .ok (.solutions (.error reason)) => .error (.connection reason)
  | .ok (.solutions (.ok found)) => .ok (found.map Row.ofTerms)
  | .ok _ => .error (.malformedQuery (some ("not a SELECT query: " ++ text)))

/-- The answer to a query from some quads, if it asks for yes or no. -/
def verdictOf (text : String) (q : Engine.Query) (quads : List Quad) : Except Fault Bool :=
  match Engine.evaluate q quads with
  | .error reason => .error (.connection reason)
  | .ok (.verdict holds) => .ok holds
  | .ok _ => .error (.malformedQuery (some ("not an ASK query: " ++ text)))

/-- Answers a query from the data of a client. -/
def query {α : Type} (k : Nat)
    (answerOf : String → Engine.Query → List Quad → Except Fault α) (text : String) : Work α := do
  let q ← lift (query? text)
  let data ← clientData k
  lift (answerOf text q data.quads)

def select (k : Nat) (text : String) : Work (List Row) := query k rowsOf text

def ask (k : Nat) (text : String) : Work Bool := query k verdictOf text

/-- Carries out an update request at once, in a transaction. -/
def update (k : Nat) (text : String) : Work Unit := do
  match Engine.readRequest? text with
  | none => throw (.malformedQuery none)
  | some request =>
    let before ← clientData k
    match Engine.carryOut request (← depot).blanks before with
    | .error reason => throw (.connection reason)
    | .ok (after, blanks) =>
      transact .connection
      modifyDepot fun d =>
        { d.setData (d.client k).repository after with blanks := d.blanks + blanks }

end

/-! ## A connector's view -/

/-- The repositories that a connector works on. -/
def main : Nat := 0
def working : Nat := 1

def act [Engine] (k : Nat) : Action → Work Unit
  | .connect => connect k
  | .disconnect => disconnect k
  | .commit => commit k
  | .rollback => rollback k
  | .flush => flush k
  | .invalidate => invalidate k
  | .write w => write k w
  | .update text => update k text

/-- Opens a repository as the working one and makes a connected client of it. -/
def openAsWorking (r : Nat) : Work Nat := do
  initialize_ r
  connectClient r

instance [Engine] : Backend Depot where
  durability d k := (d.repository (d.client k.number).repository).durability
  act d k a := (act k.number a).respond d
  select d k text := (select k.number text).respond d
  ask d k text := (ask k.number text).respond d
  create := (ClientId.mk <$> connectClient main).respond
  openWorking := (ClientId.mk <$> openAsWorking working).respond
  shutDownWorking := (shutDown working).respond

end Depot

end GraphCommit
