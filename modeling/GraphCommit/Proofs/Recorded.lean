import GraphCommit.Backend

/-!
# Stores that remember what they were asked

`Recorded S` answers exactly as the stores `S` do and keeps a history of the questions, each with
the stores as they were when it was put.  A statement on the calls that an operation makes, or on
their order, is a statement on this history; nothing that a connector does can depend on it.
-/

namespace GraphCommit

/-- What stores can be asked. -/
inductive Question where
  | act (client : ClientId) (action : Action)
  | select (client : ClientId) (query : String)
  | ask (client : ClientId) (query : String)
  | create
  | openWorking
  | shutDownWorking
  deriving DecidableEq, Repr

namespace Question

/-- The client that is asked, if it is one. -/
def client? : Question → Option ClientId
  | act k _ => some k
  | select k _ => some k
  | ask k _ => some k
  | _ => none

/-- Whether a question is a write or a query, so that it needs the repository lock. -/
def isAccess : Question → Bool
  | act _ (.write _) => true
  | select .. => true
  | _ => false

theorem isAccess_act {k : ClientId} {a : Action} (ha : ∀ w, a ≠ .write w) :
    (act k a).isAccess = false := by
  cases a with
  | write w => exact absurd rfl (ha w)
  | _ => rfl

/-- What becomes of the stores. -/
def after {S : Type} [Backend S] (s : S) : Question → S
  | act k a => (Backend.act s k a).state
  | select k text => (Backend.select s k text).state
  | ask k text => (Backend.ask s k text).state
  | create => (Backend.create s).state
  | openWorking => (Backend.openWorking s).state
  | shutDownWorking => (Backend.shutDownWorking s).state

/-- Whether the stores answer the question and do not refuse it. -/
def isAnswered {S : Type} [Backend S] (s : S) : Question → Bool
  | act k a => (Backend.act s k a).result.isOk
  | select k text => (Backend.select s k text).result.isOk
  | ask k text => (Backend.ask s k text).result.isOk
  | create => (Backend.create s).result.isOk
  | openWorking => (Backend.openWorking s).result.isOk
  | shutDownWorking => (Backend.shutDownWorking s).result.isOk

/-- What the stores leave for the log. -/
def records {S : Type} [Backend S] (s : S) : Question → List Record
  | act k a => (Backend.act s k a).records
  | select k text => (Backend.select s k text).records
  | ask k text => (Backend.ask s k text).records
  | create => (Backend.create s).records
  | openWorking => (Backend.openWorking s).records
  | shutDownWorking => (Backend.shutDownWorking s).records

end Question

/-- A question in the history of stores. -/
structure Entry (S : Type) where
  /-- The stores as they were when the question was put. -/
  before : S
  question : Question
  /-- Whether the question was answered, and not refused. -/
  answered : Bool

/-- Whether an entry says what the stores really answer. -/
def Entry.IsTrue {S : Type} [Backend S] (e : Entry S) : Prop :=
  e.answered = e.question.isAnswered e.before

/-- Stores with the history of their questions, the oldest first. -/
structure Recorded (S : Type) where
  stores : S
  history : List (Entry S) := []

namespace Recorded

variable {S : Type}

/-- Puts a question to the stores and adds it to the history. -/
def put {α : Type} (r : Recorded S) (question : Question) (answer : S → Response S α) :
    Response (Recorded S) α :=
  let response := answer r.stores
  { result := response.result
    state :=
      { stores := response.state
        history := r.history ++ [⟨r.stores, question, response.result.isOk⟩] }
    records := response.records }

instance [Backend S] : Backend (Recorded S) where
  durability r k := Backend.durability r.stores k
  act r k a := r.put (.act k a) (Backend.act · k a)
  select r k text := r.put (.select k text) (Backend.select · k text)
  ask r k text := r.put (.ask k text) (Backend.ask · k text)
  create r := r.put .create Backend.create
  openWorking r := r.put .openWorking Backend.openWorking
  shutDownWorking r := r.put .shutDownWorking Backend.shutDownWorking

variable [Backend S]

/-- A question has the effect on recorded stores that it has on the stores themselves. -/
@[simp] theorem stores_after (r : Recorded S) (q : Question) :
    (q.after r).stores = q.after r.stores := by
  cases q <;> rfl

/-- A question is remembered together with the stores that it was put to. -/
theorem history_after (r : Recorded S) (q : Question) :
    (q.after r).history = r.history ++ [⟨r.stores, q, q.isAnswered r.stores⟩] := by
  cases q <;> rfl

@[simp] theorem records_put (r : Recorded S) (q : Question) :
    q.records r = q.records r.stores := by
  cases q <;> rfl

end Recorded

end GraphCommit
