import Mathlib.Logic.Function.Basic
import GraphCommit.Proofs.Operation

/-!
# Connectors with operations under way

On a connector, operations of different connections overlap: one waits for the lock while another
writes, or holds the read lock while a third asks for the write lock.  A `Schedule` is a connector
together with what each of its connections is in the middle of, and a `Step` is one access to what
the connections share: a call of the lock, or the work that is done under it.  Any connection may
take the next step, and any waiting call may run into its time limit, so the runs of schedules are
all interleavings.

The operations of one connection do not overlap: it begins one only when it is idle.  Only the
coordinator, which has threads of its own, calls the participant of a connection at any time.  To
close a handle is to invalidate it and then to release its connection, to release a connection is to
derive transformations and then to tell the listeners one after another.
-/

namespace GraphCommit

/-- A connector and what its connections are in the middle of. -/
structure Schedule (S : Type) where
  connector : Connector S
  tasks : Nat → Task := fun _ => .idle

/-- What may happen next. -/
inductive Move where
  | connect
  | connectWith (strategy : Strategy)
  | getHandle (i : Nat)
  | invalidate (h : Handle)
  | listen (i : Nat) (l : Listener)
  | unlisten (i : Nat) (l : Listener)
  | beginAccess (i : Nat) (a : Access)
  | beginRelease (i : Nat)
  /-- The time limit of a waiting call is over. -/
  | expire (call : Lock.Call)
  | proceed (i : Nat)
  | carryOut (i : Nat)
  | endQuery (i : Nat)
  | endRelease (i : Nat)
  | endWithError (i : Nat) (f : Fault)
  | tell (i : Nat)
  | coordinate (i : Nat) (command : Command)
  | cleanup (i : Nat)
  | destroy (i : Nat)

namespace Schedule

variable {S : Type}

/-- The connection with an index. -/
abbrev connection (s : Schedule S) (i : Nat) : Connection := s.connector.connection i

/-- The branch and the journal of a connection. -/
abbrev branch (s : Schedule S) (i : Nat) : Branch := (s.connection i).participant.branch
abbrev journal (s : Schedule S) (i : Nat) : Journal := (s.connection i).participant.journal

def size (s : Schedule S) : Nat := s.connector.connections.length

def core (s : Schedule S) : Core S := s.connector.core

/-- Whether a connection exists and is idle. -/
def IsFree (s : Schedule S) (i : Nat) : Prop := i < s.size ∧ s.tasks i = .idle

/-- Whether the connection that a listener would clean is idle, or is the one that tells it. -/
def MayTell (s : Schedule S) (i : Nat) (l : Listener) : Prop :=
  ∀ other, l.cleans = some other → other = i ∨ s.IsFree other

/-- Carries out an operation of the connector. -/
def after {α : Type} (s : Schedule S) (r : Connector.Run S α) : Schedule S :=
  { s with connector := (r s.connector).2 }

/-- Carries out a part of the operation that a connection is in the middle of. -/
def turn (s : Schedule S) (i : Nat) (r : Connector.Run S Task) : Schedule S :=
  match r s.connector with
  | (.ok task, c) => ⟨c, Function.update s.tasks i task⟩
  | (.error _, c) => { s with connector := c }

/-- Lets the coordinator call the participant of a connection. -/
def order [Backend S] (s : Schedule S) (i : Nat) (command : Command) : Schedule S :=
  { s with connector := (Connector.coordinate i command.call s.connector).2 }

/-- What the coordinator is answered. -/
def answer [Backend S] (s : Schedule S) (i : Nat) (command : Command) :
    Except BranchFault (Option Vote) :=
  (Connector.coordinate i command.call s.connector).1

/-- Whether a move cleans a connection, be it through a listener. -/
def Cleans (s : Schedule S) (i : Nat) : Move → Prop
  | .cleanup j => j = i
  | .tell j => ∃ kind error l rest, s.tasks j = .telling kind error (l :: rest) ∧ l.cleans = some i
  | _ => False

/-- Of the listeners that are still to be told, only the first one can clean a connection now. -/
theorem cleans_tell {s : Schedule S} {i j : Nat} {kind : EventKind} {error : Option String}
    {l : Listener} {rest : List Listener} (htask : s.tasks j = .telling kind error (l :: rest)) :
    s.Cleans i (.tell j) ↔ l.cleans = some i := by
  constructor
  · rintro ⟨_, _, _, _, hsame, hcleans⟩
    obtain ⟨-, -, ⟨⟩⟩ := Task.telling.inj (htask.symm.trans hsame)
    exact hcleans
  · exact fun hcleans => ⟨kind, error, l, rest, htask, hcleans⟩

/-- A schedule whose connector has just been made. -/
structure IsNew (s : Schedule S) : Prop where
  connections : s.connector.connections = []
  locks : s.connector.locks = { timeout := s.connector.locks.timeout }
  tasks : s.tasks = fun _ => .idle

/-- A new connector with the default settings, which derives nothing and logs nothing. -/
def fresh (stores : S) : Schedule S where
  connector := { settings := {}, locks := {}, outside := ⟨stores, Log.silent⟩, hasWorking := false }

theorem isNew_fresh (stores : S) : (fresh stores).IsNew := ⟨rfl, rfl, rfl⟩

/-- A new connector with the default settings and a working repository. -/
def freshWorking (stores : S) : Schedule S where
  connector := { settings := {}, locks := {}, outside := ⟨stores, Log.silent⟩, hasWorking := true }

theorem isNew_freshWorking (stores : S) : (freshWorking stores).IsNew := ⟨rfl, rfl, rfl⟩

/-- A connection that does not exist has neither a branch nor writes. -/
theorem branch_of_ge {s : Schedule S} {i : Nat} (hi : s.size ≤ i) : s.branch i = Branch.idle :=
  congrArg (fun c : Connection => c.participant.branch) (Core.connection_of_ge (c := s.core) hi)

theorem journal_of_ge {s : Schedule S} {i : Nat} (hi : s.size ≤ i) : s.journal i = Journal.empty :=
  congrArg (fun c : Connection => c.participant.journal) (Core.connection_of_ge (c := s.core) hi)

theorem IsNew.size {s : Schedule S} (hs : s.IsNew) : s.size = 0 :=
  congrArg List.length hs.connections

theorem IsNew.branch {s : Schedule S} (hs : s.IsNew) (i : Nat) : s.branch i = Branch.idle :=
  branch_of_ge (by rw [hs.size]; exact Nat.zero_le i)

theorem IsNew.journal {s : Schedule S} (hs : s.IsNew) (i : Nat) : s.journal i = Journal.empty :=
  journal_of_ge (by rw [hs.size]; exact Nat.zero_le i)

variable [Backend S]

/-- One move of a schedule. -/
inductive Step : Schedule S → Move → Schedule S → Prop
  | connect {s} : Step s .connect (s.after Connector.connect)
  | connectWith {s} (strategy : Strategy) :
      Step s (.connectWith strategy) (s.after (Connector.connectWith strategy))
  | getHandle {s i} (hfree : s.IsFree i) :
      Step s (.getHandle i) (s.after (Connector.getHandle i))
  | invalidate {s} (h : Handle) :
      Step s (.invalidate h) (s.after (Connector.invalidate h))
  | listen {s i} (l : Listener) (hfree : s.IsFree i) :
      Step s (.listen i l) (s.after (Connector.addListener i l))
  | unlisten {s i} (l : Listener) (hfree : s.IsFree i) :
      Step s (.unlisten i l) (s.after (Connector.removeListener i l))
  | beginAccess {s i} (a : Access) (hfree : s.IsFree i) :
      Step s (.beginAccess i a) (s.turn i (Connector.beginAccess i a))
  | beginRelease {s i} (hfree : s.IsFree i) :
      Step s (.beginRelease i) (s.turn i (Connector.beginRelease i))
  | expire {s call} (hlimit : s.connector.locks.timeout.isSome)
      (hcall : call ∈ s.connector.locks.waiting) :
      Step s (.expire call) (s.after (Connector.expire call))
  | proceed {s i ticket work} (htask : s.tasks i = .waiting ticket work)
      (hreturned : s.connector.locks.isWaiting ticket = false) :
      Step s (.proceed i) (s.turn i (Connector.proceed ticket work))
  | carryOut {s i work} (htask : s.tasks i = .ready work) :
      Step s (.carryOut i) (s.turn i (Connector.carryOut i work))
  | endQuery {s i result} (htask : s.tasks i = .reading result) :
      Step s (.endQuery i) (s.turn i (Connector.endQuery i))
  | endRelease {s i derived} (htask : s.tasks i = .closing derived) :
      Step s (.endRelease i) (s.turn i (Connector.endRelease i derived))
  | endWithError {s i} (f : Fault) (hfree : s.IsFree i) :
      Step s (.endWithError i f) (s.turn i (Connector.endWithError i f))
  | tell {s i kind error l rest} (htask : s.tasks i = .telling kind error (l :: rest))
      (htell : s.MayTell i l) :
      Step s (.tell i) (s.turn i (Connector.tellNext i kind error l rest))
  | coordinate {s i} (command : Command) (hi : i < s.size) :
      Step s (.coordinate i command) (s.order i command)
  | cleanup {s i} (hfree : s.IsFree i) :
      Step s (.cleanup i) (s.after (Connector.cleanup i))
  | destroy {s i} (hfree : s.IsFree i) :
      Step s (.destroy i) (s.after (Connector.destroy i))

/-! ## Moves that are carried out -/

instance (s : Schedule S) (i : Nat) : Decidable (s.IsFree i) :=
  decidable_of_iff (i < s.size ∧ (s.tasks i).isIdle = true)
    (and_congr_right fun _ => Task.isIdle_iff)

instance (s : Schedule S) (i : Nat) (l : Listener) : Decidable (s.MayTell i l) :=
  decidable_of_iff (∀ other ∈ l.cleans, other = i ∨ s.IsFree other) Iff.rfl

/-- The schedule after a move, if the move is possible. -/
def next (s : Schedule S) : Move → Option (Schedule S)
  | .connect => some (s.after Connector.connect)
  | .connectWith strategy => some (s.after (Connector.connectWith strategy))
  | .getHandle i => if s.IsFree i then some (s.after (Connector.getHandle i)) else none
  | .invalidate h => some (s.after (Connector.invalidate h))
  | .listen i l => if s.IsFree i then some (s.after (Connector.addListener i l)) else none
  | .unlisten i l => if s.IsFree i then some (s.after (Connector.removeListener i l)) else none
  | .beginAccess i a => if s.IsFree i then some (s.turn i (Connector.beginAccess i a)) else none
  | .beginRelease i => if s.IsFree i then some (s.turn i (Connector.beginRelease i)) else none
  | .expire call =>
    if s.connector.locks.timeout.isSome ∧ call ∈ s.connector.locks.waiting then
      some (s.after (Connector.expire call))
    else none
  | .proceed i =>
    match s.tasks i with
    | .waiting ticket work =>
      if s.connector.locks.isWaiting ticket = false then
        some (s.turn i (Connector.proceed ticket work))
      else none
    | _ => none
  | .carryOut i =>
    match s.tasks i with
    | .ready work => some (s.turn i (Connector.carryOut i work))
    | _ => none
  | .endQuery i =>
    match s.tasks i with
    | .reading _ => some (s.turn i (Connector.endQuery i))
    | _ => none
  | .endRelease i =>
    match s.tasks i with
    | .closing derived => some (s.turn i (Connector.endRelease i derived))
    | _ => none
  | .endWithError i f => if s.IsFree i then some (s.turn i (Connector.endWithError i f)) else none
  | .tell i =>
    match s.tasks i with
    | .telling kind error (l :: rest) =>
      if s.MayTell i l then some (s.turn i (Connector.tellNext i kind error l rest)) else none
    | _ => none
  | .coordinate i command => if i < s.size then some (s.order i command) else none
  | .cleanup i => if s.IsFree i then some (s.after (Connector.cleanup i)) else none
  | .destroy i => if s.IsFree i then some (s.after (Connector.destroy i)) else none

/-- The schedule after some moves, if each of them is possible in its turn. -/
def follow (s : Schedule S) (moves : List Move) : Option (Schedule S) := moves.foldlM next s

/-- A move is a step if and only if it is possible, and it leads to one schedule only. -/
theorem step_iff {s s' : Schedule S} {m : Move} : Step s m s' ↔ s.next m = some s' := by
  constructor
  · intro hstep
    cases hstep <;> simp_all [next]
  -- each move has one guard, and `next` tests just the guard of the constructor
  · intro hnext
    cases m with
    | connect => exact Option.some.inj hnext ▸ .connect
    | connectWith strategy => exact Option.some.inj hnext ▸ .connectWith strategy
    | invalidate h => exact Option.some.inj hnext ▸ .invalidate h
    | getHandle i =>
      obtain ⟨hfree, ⟨⟩⟩ := Option.ite_none_right_eq_some.mp hnext
      exact .getHandle hfree
    | listen i l =>
      obtain ⟨hfree, ⟨⟩⟩ := Option.ite_none_right_eq_some.mp hnext
      exact .listen l hfree
    | unlisten i l =>
      obtain ⟨hfree, ⟨⟩⟩ := Option.ite_none_right_eq_some.mp hnext
      exact .unlisten l hfree
    | beginAccess i a =>
      obtain ⟨hfree, ⟨⟩⟩ := Option.ite_none_right_eq_some.mp hnext
      exact .beginAccess a hfree
    | beginRelease i =>
      obtain ⟨hfree, ⟨⟩⟩ := Option.ite_none_right_eq_some.mp hnext
      exact .beginRelease hfree
    | expire call =>
      obtain ⟨⟨hlimit, hcall⟩, ⟨⟩⟩ := Option.ite_none_right_eq_some.mp hnext
      exact .expire hlimit hcall
    | endWithError i f =>
      obtain ⟨hfree, ⟨⟩⟩ := Option.ite_none_right_eq_some.mp hnext
      exact .endWithError f hfree
    | coordinate i command =>
      obtain ⟨hi, ⟨⟩⟩ := Option.ite_none_right_eq_some.mp hnext
      exact .coordinate command hi
    | cleanup i =>
      obtain ⟨hfree, ⟨⟩⟩ := Option.ite_none_right_eq_some.mp hnext
      exact .cleanup hfree
    | destroy i =>
      obtain ⟨hfree, ⟨⟩⟩ := Option.ite_none_right_eq_some.mp hnext
      exact .destroy hfree
    | proceed i =>
      rw [next] at hnext
      split at hnext
      · next ticket work htask =>
        obtain ⟨hreturned, ⟨⟩⟩ := Option.ite_none_right_eq_some.mp hnext
        exact .proceed htask hreturned
      · contradiction
    | carryOut i =>
      rw [next] at hnext
      split at hnext
      · next work htask => exact Option.some.inj hnext ▸ .carryOut htask
      · contradiction
    | endQuery i =>
      rw [next] at hnext
      split at hnext
      · next result htask => exact Option.some.inj hnext ▸ .endQuery htask
      · contradiction
    | endRelease i =>
      rw [next] at hnext
      split at hnext
      · next derived htask => exact Option.some.inj hnext ▸ .endRelease htask
      · contradiction
    | tell i =>
      rw [next] at hnext
      split at hnext
      · next kind error l rest htask =>
        obtain ⟨htell, ⟨⟩⟩ := Option.ite_none_right_eq_some.mp hnext
        exact .tell htask htell
      · contradiction

/-! ## What a step does -/

/-- What a step does to the core and to the tasks. -/
inductive Turn (s : Schedule S) : Move → Core S → (Nat → Task) → Prop
  /-- No connection is made for want of a client. -/
  | createdNone {m : Move} : Turn s m s.core.create s.tasks
  | created {m : Move} {client : ClientId} (strategy : Strategy) (derives : Bool)
      (hclient : (Backend.create s.core.stores).result = .ok client) :
      Turn s m (s.core.create.enlist client strategy derives) s.tasks
  /-- Handles and listeners of a connection change. -/
  | kept {m : Move} {i : Nat} {f : Connection → Connection} (hholder : ∀ x, (f x).holder = x.holder)
      (hparticipant : ∀ x, (f x).participant = x.participant) :
      Turn s m (s.core.update i f) s.tasks
  /-- An operation goes on without touching what is shared, or ends. -/
  | resting {m : Move} {i : Nat} {task : Task}
      (hi : s.IsFree i ∨ ∃ derived, s.tasks i = .closing derived)
      (htask : (∃ derived, task = .closing derived) ∨
        ∃ kind error rest, task = .told kind error rest) :
      Turn s m s.core (Function.update s.tasks i task)
  | asked {m : Move} {i : Nat} (work : Work) (hfree : s.IsFree i)
      (hderive : ∀ context writes, work = .derive context writes →
        writes = (s.core.connection i).journal.writes ∧ writes ≠ []) :
      Turn s m { s.core with locks := (s.core.locks.lock (s.core.holder i) work.mode).2 }
        (Function.update s.tasks i
          (work.answered (s.core.locks.lock (s.core.holder i) work.mode).1))
  | expired {m : Move} {call : Lock.Call} (hcall : call ∈ s.core.locks.waiting) :
      Turn s m { s.core with locks := s.core.locks.expire call } s.tasks
  | proceeded {m : Move} {i ticket : Nat} {work : Work} (htask : s.tasks i = .waiting ticket work)
      (hreturned : s.core.locks.isWaiting ticket = false) :
      Turn s m s.core (Function.update s.tasks i
        (if ticket ∈ s.core.locks.gaveUp then
          work.failed (.lockTimeout (s.core.locks.timeout.getD ⟨0⟩))
        else .ready work))
  | wrote {i : Nat} {w : Write} (htask : s.tasks i = .ready (.write w)) :
      Turn s (.carryOut i) (s.core.perform i w) (Function.update s.tasks i .idle)
  | queried {i : Nat} {text : String} {result : Except Fault (List Row)}
      (htask : s.tasks i = .ready (.select text)) :
      Turn s (.carryOut i) (s.core.query i text) (Function.update s.tasks i (.reading result))
  | derived {i : Nat} {context : String} {writes : List Write} {o : Outside S}
      {result : Except Fault (Option Derivation.Report)}
      (htask : s.tasks i = .ready (.derive context writes)) (ho : o.stores = s.core.stores) :
      Turn s (.carryOut i)
        { s.core with
          stores := (Derivation.run (s.core.connection i).client context writes o).2.stores }
        (Function.update s.tasks i (.closing result))
  | unlocked {m : Move} {i : Nat} {result : Except Fault (List Row)}
      (htask : s.tasks i = .reading result) :
      Turn s m { s.core with locks := s.core.locks.unlockRead (s.core.holder i) }
        (Function.update s.tasks i .idle)
  | told {m : Move} {i : Nat} {kind : EventKind} {error : Option String} {l : Listener}
      {rest : List Listener} (htask : s.tasks i = .telling kind error (l :: rest)) :
      Turn s m s.core (Function.update s.tasks i (.told kind error rest))
  | toldCleaning {i other : Nat} {kind : EventKind} {error : Option String} {l : Listener}
      {rest : List Listener} (htask : s.tasks i = .telling kind error (l :: rest))
      (hcleans : s.Cleans other (.tell i)) (hfree : other = i ∨ s.IsFree other) :
      Turn s (.tell i) (s.core.clean other) (Function.update s.tasks i (.told kind error rest))
  | coordinated {i : Nat} {command : Command} {p : Participant} {t : S} (hi : i < s.size)
      (hobeys : (s.core.connection i).participant.Obeys s.core.stores command (s.answer i command)
        p t) :
      Turn s (.coordinate i command) (s.core.enact i p t) s.tasks
  | cleaned {i : Nat} (hfree : s.IsFree i) : Turn s (.cleanup i) (s.core.clean i) s.tasks
  | destroyed {i : Nat} (hfree : s.IsFree i) :
      Turn s (.destroy i) (s.core.act i .disconnect) s.tasks

theorem Turn.of_after {α : Type} {s : Schedule S} {m : Move} {r : Connector.Run S α} {k : Core S}
    (hcore : (r s.connector).2.core = k) (hturn : Turn s m k s.tasks) :
    Turn s m (s.after r).core (s.after r).tasks := by
  subst hcore
  exact hturn

theorem Turn.of_yields {s : Schedule S} {m : Move} {i : Nat} {r : Connector.Run S Task}
    {task : Task} {k : Core S} (hr : Connector.Yields r s.connector task k)
    (hturn : Turn s m k (Function.update s.tasks i task)) :
    Turn s m (s.turn i r).core (s.turn i r).tasks := by
  obtain ⟨d, hd, rfl⟩ := hr
  simp only [turn, hd]
  exact hturn

/-- Every step is one of these turns. -/
theorem Step.turn {s s' : Schedule S} {m : Move} (hstep : Step s m s') :
    Turn s m s'.core s'.tasks := by
  cases hstep with
  | connect =>
    rcases Connector.connect_cases s.connector with hcore | ⟨client, hclient, hcore⟩
    · exact .of_after hcore .createdNone
    · exact .of_after hcore (.created _ _ hclient)
  | connectWith strategy =>
    rcases Connector.connectWith_cases strategy s.connector with hcore | ⟨client, hclient, hcore⟩
    · exact .of_after hcore .createdNone
    · exact .of_after hcore (.created _ _ hclient)
  | @getHandle i hfree =>
    exact .of_after (Connector.getHandle_core i s.connector)
      (.kept Connection.holder_token Connection.participant_token)
  | invalidate h =>
    exact .of_after rfl (.kept (fun x => x.holder_invalidate h.token)
      fun x => x.participant_invalidate h.token)
  | listen l hfree => exact .of_after rfl (.kept (fun _ => rfl) fun _ => rfl)
  | unlisten l hfree => exact .of_after rfl (.kept (fun _ => rfl) fun _ => rfl)
  | @beginAccess i a hfree =>
    cases a with
    | write w =>
      exact .of_yields (Connector.yields_beginAccess i (.write w) s.connector)
        (.asked (.write w) hfree (by simp))
    | select text =>
      exact .of_yields (Connector.yields_beginAccess i (.select text) s.connector)
        (.asked (.select text) hfree (by simp))
  | @beginRelease i hfree =>
    rcases Connector.yields_beginRelease i s.connector with
      ⟨-, hyields⟩ | ⟨context, hcontext, hyields⟩
    · exact .of_yields hyields (.resting (Or.inl hfree) (Or.inl ⟨_, rfl⟩))
    -- a derivation is asked for with what is in the journal
    · refine .of_yields hyields
        (.asked (.derive context (s.core.connection i).journal.writes) hfree ?_)
      rintro _ _ heq
      obtain ⟨rfl, rfl⟩ := Work.derive.inj heq
      exact ⟨rfl, Connection.writes_ne_nil_of_derivedContext? hcontext⟩
  | @expire call hlimit hcall =>
    exact .of_after (Connector.expire_core call s.connector) (.expired hcall)
  | proceed htask hreturned =>
    exact .of_yields (Connector.yields_proceed _ _ s.connector) (.proceeded htask hreturned)
  | @carryOut i work htask =>
    cases work with
    | write w => exact .of_yields (Connector.yields_carryOut_write i w s.connector) (.wrote htask)
    | select text =>
      exact .of_yields (Connector.yields_carryOut_select i text s.connector) (.queried htask)
    | derive context writes =>
      obtain ⟨result, hyields⟩ := Connector.yields_carryOut_derive i context writes s.connector
      exact .of_yields hyields (.derived htask rfl)
  | endQuery htask => exact .of_yields (Connector.yields_endQuery _ s.connector) (.unlocked htask)
  | endRelease htask =>
    exact .of_yields (Connector.yields_endRelease _ _ s.connector)
      (.resting (Or.inr ⟨_, htask⟩) (Or.inr ⟨_, _, _, rfl⟩))
  | endWithError f hfree =>
    exact .of_yields (Connector.yields_endWithError _ f s.connector)
      (.resting (Or.inl hfree) (Or.inr ⟨_, _, _, rfl⟩))
  | @tell i kind error l rest htask htell =>
    have hyields := Connector.yields_tellNext i kind error l rest s.connector
    cases hcleans : l.cleans with
    | none =>
      simp only [hcleans] at hyields
      exact .of_yields hyields (.told htask)
    | some other =>
      simp only [hcleans] at hyields
      exact .of_yields hyields
        (.toldCleaning htask ((cleans_tell htask).mpr hcleans) (htell other hcleans))
  | @coordinate i command hi =>
    obtain ⟨p, t, hobeys, hcore⟩ := Connector.coordinate_obeys i command s.connector
    change Turn s _ (Connector.coordinate i command.call s.connector).2.core s.tasks
    rw [hcore]
    exact .coordinated hi hobeys
  | @cleanup i hfree =>
    exact .of_after (Connector.cleanup_ends i s.connector).core (.cleaned hfree)
  | @destroy i hfree => exact .of_after rfl (.destroyed hfree)

theorem Step.core_of_cleans {s s' : Schedule S} {m : Move} {i : Nat} (hstep : Step s m s')
    (hcleans : s.Cleans i m) : s'.core = s.core.clean i := by
  cases hstep with
  | @cleanup j hfree =>
    obtain rfl : j = i := hcleans
    exact (Connector.cleanup_ends j s.connector).core
  | @tell j kind error l rest htask htell =>
    have hl := (cleans_tell htask).mp hcleans
    have hyields := Connector.yields_tellNext j kind error l rest s.connector
    rw [hl] at hyields
    obtain ⟨d, hd, hcore⟩ := hyields
    change (s.turn j _).connector.core = _
    rw [Schedule.turn, hd]
    exact hcore
  | _ => exact hcleans.elim

/-- A write that is carried out. -/
theorem Step.core_of_write {s s' : Schedule S} {i : Nat} {w : Write}
    (hstep : Step s (.carryOut i) s') (htask : s.tasks i = .ready (.write w)) :
    s'.core = s.core.perform i w := by
  cases hstep with
  | @carryOut _ work htask' =>
    rw [htask] at htask'
    obtain rfl := Task.ready.inj htask'
    obtain ⟨d, hd, hcore⟩ := Connector.yields_carryOut_write i w s.connector
    change (s.turn i _).connector.core = _
    rw [Schedule.turn, hd]
    exact hcore

/-- A step makes at most one connection, for a client that the stores have made. -/
theorem Step.size_cases {s s' : Schedule S} {m : Move} (hstep : Step s m s') :
    s'.size = s.size ∨ ∃ client strategy derives,
      (Backend.create s.core.stores).result = .ok client ∧
        s'.core = s.core.create.enlist client strategy derives := by
  change s'.core.size = s.core.size ∨ _
  have hturn := hstep.turn
  generalize s'.core = k at hturn
  generalize s'.tasks = tasks at hturn
  cases hturn with
  | created strategy derives hclient => exact Or.inr ⟨_, strategy, derives, hclient, rfl⟩
  | kept hholder hparticipant => exact Or.inl Core.size_update
  | wrote htask => exact Or.inl Core.size_perform
  | toldCleaning htask hother hfree => exact Or.inl Core.size_clean
  | coordinated hi hobeys => exact Or.inl Core.size_enact
  | cleaned hfree => exact Or.inl Core.size_clean
  | _ => exact Or.inl rfl

theorem Step.size_le {s s' : Schedule S} {m : Move} (hstep : Step s m s') : s.size ≤ s'.size := by
  rcases hstep.size_cases with hsize | ⟨client, strategy, derives, -, hcore⟩
  · exact Nat.le_of_eq hsize.symm
  · change s.size ≤ s'.core.size
    rw [hcore, Core.size_enlist]
    exact Nat.le_succ _

/-- A connection keeps its holder. -/
theorem Step.holder {s s' : Schedule S} {m : Move} {i : Nat} (hstep : Step s m s')
    (hi : i < s.size) : s'.core.holder i = s.core.holder i := by
  have hturn := hstep.turn
  generalize s'.core = k at hturn ⊢
  generalize s'.tasks = tasks at hturn
  cases hturn with
  | created strategy derives hclient =>
    exact congrArg Connection.holder (Core.connection_enlist_of_lt (c := s.core.create) hi)
  | kept hholder hparticipant => exact Core.connection_update_keeps Connection.holder hholder
  | wrote htask => exact Core.holder_perform
  | toldCleaning htask hother hfree => exact Core.holder_clean
  | coordinated hj hobeys => exact Core.holder_enact
  | cleaned hfree => exact Core.holder_clean
  | _ => rfl

/-- What a step does to the participant of a connection: nothing, or it adds an accepted write, or
it carries out a command of the coordinator, or it cleans the connection. -/
theorem Step.participant_cases {s s' : Schedule S} {m : Move} {i : Nat} (hstep : Step s m s')
    (hi : i < s.size) :
    (¬ s.Cleans i m ∧ (s'.connection i).participant = (s.connection i).participant) ∨
    (∃ w, m = .carryOut i ∧ s.tasks i = .ready (.write w) ∧
      (Backend.act s.core.stores (s.connection i).client (.write w)).result = .ok () ∧
      s'.connection i = (s.connection i).append w) ∨
    (∃ command t, m = .coordinate i command ∧
      (s.connection i).participant.Obeys s.core.stores command (s.answer i command)
        (s'.connection i).participant t ∧ s'.core.stores = t) ∨
    (s.Cleans i m ∧ s'.connection i = (s.connection i).reset) := by
  -- what a cleaning does is known; any other step is looked at by its turn
  by_cases hcleans : s.Cleans i m
  · right; right; right
    refine ⟨hcleans, ?_⟩
    change s'.core.connection i = _
    rw [hstep.core_of_cleans hcleans]
    exact Core.connection_clean_self hi
  change (_ ∧ (s'.core.connection i).participant = _) ∨ (∃ w, _ ∧ _ ∧ _ ∧ s'.core.connection i = _)
    ∨ (∃ command t, _ ∧ Participant.Obeys _ _ _ _ (s'.core.connection i).participant _ ∧ _) ∨
    (_ ∧ s'.core.connection i = _)
  have hturn := hstep.turn
  generalize hcore : s'.core = k at hturn
  generalize s'.tasks = tasks at hturn
  cases hturn with
  | created strategy derives hclient =>
    exact Or.inl ⟨hcleans, congrArg _ (Core.connection_enlist_of_lt (c := s.core.create) hi)⟩
  | kept hholder hparticipant =>
    exact Or.inl ⟨hcleans, Core.connection_update_keeps Connection.participant hparticipant⟩
  | @wrote j w htask =>
    by_cases hij : i = j
    · subst hij
      rcases Core.connection_perform_self (c := s.core) (w := w) hi with ⟨hsame, hok⟩ | ⟨hsame, -⟩
      · exact Or.inr (Or.inl ⟨w, rfl, htask, hok, hsame⟩)
      · exact Or.inl ⟨hcleans, congrArg _ hsame⟩
    · exact Or.inl ⟨hcleans, congrArg _ (Core.connection_perform_ne hij)⟩
  | @toldCleaning j other kind error l rest htask hother hfree =>
    have hne : i ≠ other := fun heq => hcleans (heq ▸ hother)
    exact Or.inl ⟨hcleans, congrArg _ (Core.connection_clean_ne hne)⟩
  | @coordinated j command p t hj hobeys =>
    by_cases hij : i = j
    · subst hij
      right; right; left
      have hself : (s.core.enact i p t).connection i =
          { s.core.connection i with participant := p } := Core.connection_update_self hi
      rw [hself]
      exact ⟨command, t, rfl, hobeys, rfl⟩
    · exact Or.inl ⟨hcleans, congrArg _ (Core.connection_update_ne hij)⟩
  | @cleaned j hfree =>
    have hne : i ≠ j := fun heq => hcleans heq.symm
    exact Or.inl ⟨hcleans, congrArg _ (Core.connection_clean_ne hne)⟩
  | _ => exact Or.inl ⟨hcleans, rfl⟩

/-- A connection keeps its client. -/
theorem Step.client_eq {s s' : Schedule S} {m : Move} {i : Nat} (hstep : Step s m s')
    (hi : i < s.size) : (s'.connection i).client = (s.connection i).client := by
  rcases hstep.participant_cases hi with
    ⟨-, hsame⟩ | ⟨w, -, -, -, happend⟩ | ⟨command, t, -, hobeys, -⟩ | ⟨-, hreset⟩
  · exact congrArg Participant.client hsame
  · rw [happend]
    rfl
  · exact hobeys.keeps.1
  · rw [hreset]
    rfl

/-- Only a cleaning empties a journal. -/
theorem Step.writes_ne_nil {s s' : Schedule S} {m : Move} {i : Nat} (hstep : Step s m s')
    (hcleans : ¬ s.Cleans i m) (hwrites : (s.journal i).writes ≠ []) :
    (s'.journal i).writes ≠ [] := by
  have hi : i < s.size := by
    by_contra hge
    rw [journal_of_ge (Nat.le_of_not_lt hge)] at hwrites
    exact hwrites rfl
  rcases hstep.participant_cases hi with
    ⟨-, hsame⟩ | ⟨w, -, -, -, happend⟩ | ⟨command, t, -, hobeys, -⟩ | ⟨hcleaned, -⟩
  · rw [journal, hsame]
    exact hwrites
  · rw [journal, happend]
    exact List.append_ne_nil_of_right_ne_nil _ (by simp)
  · rw [journal, hobeys.keeps.2.2]
    exact hwrites
  · exact absurd hcleaned hcleans

/-- The participant of a connection obeys the coordinator. -/
theorem order_obeys {s : Schedule S} {i : Nat} (command : Command) (hi : i < s.size) :
    (s.connection i).participant.Obeys s.core.stores command (s.answer i command)
      ((s.order i command).connection i).participant (s.order i command).core.stores := by
  obtain ⟨p, t, hobeys, hcore⟩ := Connector.coordinate_obeys i command s.connector
  have hself : (s.core.enact i p t).connection i = { s.core.connection i with participant := p } :=
    Core.connection_update_self hi
  change Participant.Obeys _ _ _ _ ((s.order i command).core.connection i).participant _
  rw [show (s.order i command).core = s.core.enact i p t from hcore, hself]
  exact hobeys

/-- A connection that does not exist yet has neither a branch nor writes, nor has a new one. -/
theorem Step.participant_of_ge {s s' : Schedule S} {m : Move} {i : Nat} (hstep : Step s m s')
    (hi : s.size ≤ i) : s'.branch i = Branch.idle ∧ s'.journal i = Journal.empty := by
  change (s'.core.connection i).participant.branch = _ ∧
    (s'.core.connection i).participant.journal = _
  have hnone : s'.core.size ≤ i → (s'.core.connection i).participant.branch = Branch.idle ∧
      (s'.core.connection i).participant.journal = Journal.empty :=
    fun hge => ⟨branch_of_ge hge, journal_of_ge hge⟩
  have hturn := hstep.turn
  generalize hcore : s'.core = k at hturn hnone
  generalize s'.tasks = tasks at hturn
  cases hturn with
  | created strategy derives hclient =>
    by_cases heq : i = s.core.create.size
    · subst heq
      rw [Core.connection_enlist_self]
      exact ⟨rfl, rfl⟩
    · have hsize : s.core.create.size ≤ i := hi
      exact hnone (by rw [Core.size_enlist]; omega)
  | kept hholder hparticipant => exact hnone (by rw [Core.size_update]; exact hi)
  | wrote htask => exact hnone (by rw [Core.size_perform]; exact hi)
  | toldCleaning htask hother hfree => exact hnone (by rw [Core.size_clean]; exact hi)
  | coordinated hj hobeys => exact hnone (by rw [Core.size_enact]; exact hi)
  | cleaned hfree => exact hnone (by rw [Core.size_clean]; exact hi)
  | _ => exact hnone hi

/-! ## Runs -/

/-- A run whose steps all satisfy a condition on the schedule before them and on the move. -/
inductive Leads (allowed : Schedule S → Move → Prop) (s : Schedule S) : Schedule S → Prop
  | refl : Leads allowed s s
  | tail {t u : Schedule S} {m : Move} (hrun : Leads allowed s t) (hallowed : allowed t m)
      (hstep : Step t m u) : Leads allowed s u

theorem Leads.trans {allowed : Schedule S → Move → Prop} {s t u : Schedule S}
    (hfirst : Leads allowed s t) (hsecond : Leads allowed t u) : Leads allowed s u := by
  induction hsecond with
  | refl => exact hfirst
  | tail hrun hallowed hstep ih => exact ih.tail hallowed hstep

theorem Leads.mono {allowed wider : Schedule S → Move → Prop} {s t : Schedule S}
    (hrun : Leads allowed s t) (hwider : ∀ u m, allowed u m → wider u m) : Leads wider s t := by
  induction hrun with
  | refl => exact .refl
  | tail hrun hallowed hstep ih => exact ih.tail (hwider _ _ hallowed) hstep

/-- A connection stays, and keeps its client. -/
theorem Leads.client_eq {allowed : Schedule S → Move → Prop} {s t : Schedule S} {i : Nat}
    (hrun : Leads allowed s t) (hi : i < s.size) :
    i < t.size ∧ (t.connection i).client = (s.connection i).client := by
  induction hrun with
  | refl => exact ⟨hi, rfl⟩
  | tail hrun hallowed hstep ih =>
    exact ⟨Nat.lt_of_lt_of_le ih.1 hstep.size_le, (hstep.client_eq ih.1).trans ih.2⟩

/-- Moves that are carried out one after another are a run. -/
theorem leads_of_follow {allowed : Schedule S → Move → Prop} {s t : Schedule S}
    {moves : List Move} (hallowed : ∀ m ∈ moves, ∀ u, allowed u m)
    (hfollow : s.follow moves = some t) : Leads allowed s t := by
  induction moves generalizing s with
  | nil =>
    obtain rfl : s = t := Option.some.inj hfollow
    exact .refl
  | cons m rest ih =>
    obtain ⟨u, hnext, hrest⟩ := Option.bind_eq_some_iff.mp
      (show (s.next m).bind (fun u => u.follow rest) = some t from hfollow)
    have hstep : Leads allowed s u :=
      Leads.refl.tail (hallowed m List.mem_cons_self s) (step_iff.mpr hnext)
    exact hstep.trans (ih (fun m hm => hallowed m (List.mem_cons_of_mem _ hm)) hrest)

/-- What a run from a new schedule leads to. -/
def Reachable (s : Schedule S) : Prop :=
  ∃ s₀ : Schedule S, s₀.IsNew ∧ Leads (fun _ _ => True) s₀ s

theorem Reachable.step {s t : Schedule S} {m : Move} (hs : s.Reachable) (hstep : Step s m t) :
    t.Reachable := by
  obtain ⟨s₀, hnew, hrun⟩ := hs
  exact ⟨s₀, hnew, hrun.tail trivial hstep⟩

end Schedule

end GraphCommit
