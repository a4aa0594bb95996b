import GraphCommit.Proofs.Derivation
import GraphCommit.Proofs.Lock.Renaming
import GraphCommit.Proofs.Operation

/-!
# Connectors that mirror each other

In two connectors the same connections stand at the same places, but their holders and their clients
go by different names, and there may be other holders and clients that nobody uses any more.
Neither a connector nor a participant looks into these names.  So if the
stores answer the clients of both alike, then all operations return the same on both sides, and
the connectors mirror each other again.
-/

namespace GraphCommit

open Effect

variable {S : Type} [Backend S] {R : Outside S → Outside S → Prop} {π : Holder → Holder}
  {ρ : ClientId → ClientId}

/-! ## Participants -/

namespace Participant

/-- The participant that works with another client. -/
def under (ρ : ClientId → ClientId) (p : Participant) : Participant :=
  { p with client := ρ p.client }

/-- Participants of different clients over related stores. -/
structure Matched (R : Outside S → Outside S → Prop) (ρ : ClientId → ClientId)
    (e e' : Enlisted S) : Prop where
  participant : e'.participant = e.participant.under ρ
  outside : R e.outside e'.outside

omit [Backend S] in
theorem Matched.branch {e e' : Enlisted S} (he : Matched R ρ e e') :
    e'.participant.branch = e.participant.branch := by
  rw [he.participant]
  rfl

omit [Backend S] in
theorem Matched.journal {e e' : Enlisted S} (he : Matched R ρ e e') :
    e'.participant.journal = e.participant.journal := by
  rw [he.participant]
  rfl

omit [Backend S] in
theorem agree_decide {α : Type} (decision : Branch → Except BranchFault α) :
    Agree (Matched R ρ) Eq (decide decision : Call S α) (decide decision) := by
  intro e e' he
  rw [decide_apply, decide_apply, he.branch]
  cases decision e.participant.branch with
  | error f => exact .fails he
  | ok a => exact .returns ⟨rfl, he⟩

omit [Backend S] in
theorem agree_move (decision : Branch → Except BranchFault Branch) :
    Agree (Matched R ρ) Eq (move decision : Call S Unit) (move decision) := by
  refine (agree_decide decision).next fun branch => agree_modify fun e e' he => ⟨?_, he.outside⟩
  change ({ e'.participant with branch } : Participant) = _
  rw [he.participant]
  rfl

omit [Backend S] in
theorem agree_job {α : Type} {j k : Job S α} (hj : Agree R Eq j k) :
    Agree (Matched R ρ) Eq (job j) (job k) := by
  intro e e' he
  have hends := hj e.outside e'.outside he.outside
  rw [job_apply, job_apply]
  generalize j e.outside = done at hends ⊢
  generalize k e'.outside = done' at hends ⊢
  cases hends with
  | returns h => exact .returns ⟨congrArg Except.ok h.1, he.participant, h.2⟩
  | fails h => exact .returns ⟨rfl, he.participant, h⟩

section

variable (hmirrors : Mirrors R ρ)

include hmirrors

theorem agree_note (level : Level) (message message' target : String)
    (hother : ¬ (level = .info ∧ target = Record.audit)) :
    Agree (Matched R ρ) Eq (note level message target : Call S Unit)
      (note level message' target) :=
  agree_modify fun _ _ he =>
    ⟨he.participant, hmirrors.note level target message message' hother he.outside⟩

theorem agree_dumpTransformations :
    Agree (Matched R ρ) Eq (dumpTransformations : Call S Unit) dumpTransformations := by
  unfold dumpTransformations
  refine agree_get.bind fun e e' he => ?_
  rw [← hmirrors.keeps he.outside, he.participant]
  split
  · refine (agree_job (hmirrors.select e.participant.client _)).next fun result => ?_
    cases result with
    | error f => exact agree_note hmirrors _ _ _ _ (by simp)
    | ok rows =>
      refine (agree_note hmirrors _ _ _ _ (by simp)).next fun _ => ?_
      exact agree_forM fun row _ => agree_note hmirrors _ _ _ _ (by simp)
  · exact agree_pure rfl

theorem agree_complete (x : Xid) :
    Agree (Matched R ρ) Eq (complete x : Call S Unit) (complete x) := by
  unfold complete
  refine agree_get.bind fun e e' he => ?_
  rw [he.participant]
  have hcommit := hmirrors.agree_commit e.participant.strategy e.participant.client
    e.participant.journal.size
  refine (agree_job hcommit).next fun result => ?_
  cases result with
  | error f =>
    refine (agree_note hmirrors _ _ _ _ (by simp)).next fun _ => ?_
    exact agree_throw _
  | ok _ =>
    refine (agree_move _).next fun _ => ?_
    change Agree _ Eq (if 0 < e.participant.journal.size then _ else _)
      (if 0 < e.participant.journal.size then _ else _)
    split
    · exact agree_dumpTransformations hmirrors
    · exact agree_pure rfl

theorem agree_rollback (x : Xid) :
    Agree (Matched R ρ) Eq (rollback x : Call S Unit) (rollback x) := by
  unfold rollback
  refine (agree_note hmirrors _ _ _ _ (by simp)).next fun _ => ?_
  refine (agree_decide _).next fun _ => agree_get.bind fun e e' he => ?_
  rw [he.participant]
  refine (agree_job (hmirrors.act e.participant.client .rollback)).next fun result => ?_
  cases result with
  | error f => exact (agree_note hmirrors _ _ _ _ (by simp)).next fun _ => agree_move _
  | ok _ => exact agree_move _

/-- Every call of the coordinator is answered alike. -/
theorem agree_call (command : Command) :
    Agree (Matched R ρ) Eq (command.call : Call S (Option Vote)) command.call := by
  have hnote : ∀ message : String, Agree (Matched R ρ) Eq (note .debug message : Call S Unit)
      (note .debug message) := fun message => agree_note hmirrors _ _ _ _ (by simp)
  cases command with
  | start x flags =>
    exact ((hnote _).next fun _ => agree_move _).next fun _ => agree_pure rfl
  | finish x flags =>
    exact ((hnote _).next fun _ => agree_move _).next fun _ => agree_pure rfl
  | prepare x =>
    refine agree_map (V := Eq) ?_ fun _ _ => congrArg some
    refine (hnote _).next fun _ => agree_get.bind fun e e' he => ?_
    rw [he.journal]
    exact (agree_decide _).next fun _ => (agree_move _).next fun _ => agree_pure rfl
  | commit x onePhase =>
    refine Agree.next ?_ fun _ => agree_pure rfl
    exact (hnote _).next fun _ => (agree_decide _).next fun _ => agree_complete hmirrors x
  | rollback x => exact (agree_rollback hmirrors x).next fun _ => agree_pure rfl

end

end Participant

/-! ## Connectors -/

/-- The connection with another holder and another client. -/
def Connection.under (π : Holder → Holder) (ρ : ClientId → ClientId) (c : Connection) :
    Connection :=
  { c with holder := π c.holder, participant := c.participant.under ρ }

/-- The notice with another holder. -/
def Notice.under (π : Holder → Holder) : Notice → Notice
  | heard listener kind holder error => heard listener kind (π holder) error
  | cleaned listener result => cleaned listener result

namespace Connection

theorem token_under (x : Connection) :
    (x.under π ρ).token = (x.token.1, x.token.2.1, x.token.2.2.under π ρ) := rfl

theorem invalidate_under (x : Connection) (token : Nat) :
    (x.under π ρ).invalidate token = (x.invalidate token).under π ρ := rfl

end Connection

namespace Connector

/-- Connectors with the same connections, of which there are enough, under other names.  After what
was heard in the past, listeners have heard the same of both. -/
structure Mirror (R : Outside S → Outside S → Prop) (π : Holder → Holder)
    (ρ : ClientId → ClientId) (past : List Notice) (enough : Nat) (c d : Connector S) : Prop where
  hasWorking : d.hasWorking = c.hasWorking
  locks : d.locks = c.locks.rename π d.locks.registered
  connections : d.connections = c.connections.map (Connection.under π ρ)
  notices : ∃ heard, c.notices = past ++ heard ∧ d.notices = past ++ heard.map (Notice.under π)
  outside : R c.outside d.outside
  size : enough ≤ c.connections.length
  /-- Of the holders that are still to be registered, the next one there has the name of the next
  one here. -/
  later : ∀ m, π ⟨c.locks.registered + 1 + m⟩ = ⟨d.locks.registered + 1 + m⟩

variable {past : List Notice} {enough i : Nat} {c d : Connector S}

omit [Backend S] in
theorem Mirror.connection (hc : Mirror R π ρ past enough c d) (hi : i < enough) :
    d.connection i = (c.connection i).under π ρ := by
  have hlt : i < c.connections.length := Nat.lt_of_lt_of_le hi hc.size
  simp [Connector.connection, hc.connections, List.getD_eq_getElem?_getD, hlt]

omit [Backend S] in
/-- The locks are changed on both sides, and no holder is registered. -/
theorem Mirror.with_locks (hc : Mirror R π ρ past enough c d) {m n : LockManager}
    (hlocks : n = m.rename π d.locks.registered) (hregistered : m.registered = c.locks.registered) :
    Mirror R π ρ past enough { c with locks := m } { d with locks := n } where
  hasWorking := hc.hasWorking
  locks := by
    subst hlocks
    rfl
  connections := hc.connections
  notices := hc.notices
  outside := hc.outside
  size := hc.size
  later := by
    subst hlocks
    rw [hregistered]
    exact hc.later

omit [Backend S] in
theorem Mirror.with_outside (hc : Mirror R π ρ past enough c d) {o o' : Outside S} (ho : R o o') :
    Mirror R π ρ past enough { c with outside := o } { d with outside := o' } where
  hasWorking := hc.hasWorking
  locks := hc.locks
  connections := hc.connections
  notices := hc.notices
  outside := ho
  size := hc.size
  later := hc.later

omit [Backend S] in
theorem Mirror.with_notice (hc : Mirror R π ρ past enough c d) (n : Notice) :
    Mirror R π ρ past enough { c with notices := c.notices ++ [n] }
      { d with notices := d.notices ++ [n.under π] } where
  hasWorking := hc.hasWorking
  locks := hc.locks
  connections := hc.connections
  notices := by
    obtain ⟨heard, hleft, hright⟩ := hc.notices
    refine ⟨heard ++ [n], ?_, ?_⟩
    · rw [hleft, List.append_assoc]
    · rw [hright, List.map_append, List.append_assoc]
      rfl
  outside := hc.outside
  size := hc.size
  later := hc.later

omit [Backend S] in
/-- A connection is changed on both sides. -/
theorem Mirror.with_connection (hc : Mirror R π ρ past enough c d) (i : Nat)
    {f g : Connection → Connection} (hfg : ∀ x, g (x.under π ρ) = (f x).under π ρ) :
    Mirror R π ρ past enough { c with connections := c.connections.modify i f }
      { d with connections := d.connections.modify i g } where
  hasWorking := hc.hasWorking
  locks := hc.locks
  connections := by
    change d.connections.modify i g = (c.connections.modify i f).map (Connection.under π ρ)
    rw [hc.connections]
    apply List.ext_getElem?
    intro j
    simp only [List.getElem?_modify, List.getElem?_map, Option.map_eq_map, Option.map_map]
    refine congrArg (fun change => Option.map change c.connections[j]?) (funext fun x => ?_)
    by_cases hij : i = j
    · simp [hij, hfg]
    · simp [hij]
  notices := hc.notices
  outside := hc.outside
  size := by
    rw [List.length_modify]
    exact hc.size
  later := hc.later

/-! ### Steps of operations -/

omit [Backend S] in
theorem agree_connectionAt (hi : i < enough) :
    Agree (Mirror R π ρ past enough) (fun x y => y = x.under π ρ)
      (connectionAt i : Run S Connection) (connectionAt i) :=
  fun _ _ hc => .returns ⟨hc.connection hi, hc⟩

omit [Backend S] in
theorem agree_update (i : Nat) {f g : Connection → Connection}
    (hfg : ∀ x, g (x.under π ρ) = (f x).under π ρ) :
    Agree (Mirror R π ρ past enough) Eq (update i f : Run S Unit) (update i g) :=
  fun _ _ hc => .returns ⟨rfl, hc.with_connection i hfg⟩

omit [Backend S] in
theorem agree_job {α : Type} {V : α → α → Prop} {j k : Job S α} (hj : Agree R V j k) :
    Agree (Mirror R π ρ past enough) V (job j) (job k) := by
  intro c d hc
  have hends := hj c.outside d.outside hc.outside
  rw [job_apply, job_apply]
  generalize j c.outside = done at hends ⊢
  generalize k d.outside = done' at hends ⊢
  cases hends with
  | returns h => exact .returns ⟨h.1, hc.with_outside h.2⟩
  | fails h => exact .fails (hc.with_outside h)

omit [Backend S] in
theorem agree_observe {α : Type} {r q : Run S α} (hr : Agree (Mirror R π ρ past enough) Eq r q) :
    Agree (Mirror R π ρ past enough) Eq (observe r) (observe q) := by
  intro c d hc
  have hends := hr c d hc
  unfold observe
  generalize r c = done at hends ⊢
  generalize q d = done' at hends ⊢
  cases hends with
  | returns h => exact .returns ⟨congrArg Except.ok h.1, h.2⟩
  | @fails halt c' d' h =>
    cases halt with
    | fault f => exact .returns ⟨rfl, h⟩
    | blocked => exact .fails h

omit [Backend S] in
theorem agree_hear (n : Notice) :
    Agree (Mirror R π ρ past enough) Eq (hear n : Run S Unit) (hear (n.under π)) :=
  agree_modify fun _ _ hc => hc.with_notice n

section

variable (hmirrors : Mirrors R ρ)

include hmirrors

theorem agree_note (level : Level) (target message message' : String)
    (hother : ¬ (level = .info ∧ target = Record.audit)) :
    Agree (Mirror R π ρ past enough) Eq (note level target message : Run S Unit)
      (note level target message') :=
  agree_modify fun _ _ hc =>
    hc.with_outside (hmirrors.note level target message message' hother hc.outside)

/-! ### Connections and handles -/

theorem agree_manage (client : ClientId) (strategy : Strategy) :
    Agree (Mirror R π ρ past enough) Eq (manage client strategy : Run S Nat)
      (manage (ρ client) strategy) := by
  unfold manage
  refine agree_get.bind fun c d hc => ?_
  have hregister := LockManager.register_rename c.locks (hc.later 0)
  rw [← hc.locks] at hregister
  rw [hregister, hc.hasWorking]
  dsimp only
  have hlength : d.connections.length = c.connections.length := by
    rw [hc.connections, List.length_map]
  rw [hlength]
  refine (agree_set ?_).next fun _ => ?_
  · refine ⟨rfl, rfl, ?_, hc.notices, hc.outside, ?_, ?_⟩
    · change d.connections ++ _ = (c.connections ++ _).map (Connection.under π ρ)
      rw [hc.connections, List.map_append]
      rfl
    · change enough ≤ (c.connections ++ _).length
      rw [List.length_append]
      exact Nat.le_add_right_of_le hc.size
    · intro m
      have hlater := hc.later (1 + m)
      rwa [← Nat.add_assoc, ← Nat.add_assoc] at hlater
  · exact (agree_note hmirrors _ _ _ _ (by simp)).next fun _ => agree_pure rfl

theorem agree_connectWith (strategy : Strategy) :
    Agree (Mirror R π ρ past enough) Eq (connectWith strategy : Run S Nat)
      (connectWith strategy) := by
  unfold connectWith
  refine (agree_job hmirrors.create).bind fun client client' hclient => ?_
  rw [hclient]
  exact agree_manage hmirrors client strategy

theorem agree_connect :
    Agree (Mirror R π ρ past enough) Eq (connect : Run S Nat) connect := by
  unfold connect
  refine (agree_job hmirrors.create).bind fun client client' hclient => ?_
  rw [hclient]
  have hdurability : Agree R Eq (client.durability : Job S Durability) (ρ client).durability :=
    fun _ _ ho => .returns ⟨hmirrors.durability client ho, ho⟩
  refine (agree_job hdurability).next fun durability => ?_
  refine (agree_manage hmirrors client _).next fun i => ?_
  -- the new connection is looked up for the sake of a message only
  have hlookup : Agree (Mirror R π ρ past enough) (fun _ _ => True)
      (connectionAt i : Run S Connection) (connectionAt i) := fun _ _ hc => .returns ⟨trivial, hc⟩
  refine hlookup.bind fun _ _ _ => ?_
  exact (agree_note hmirrors _ _ _ _ (by simp)).next fun _ => agree_pure rfl

theorem agree_getHandle (hi : i < enough) :
    Agree (Mirror R π ρ past enough) Eq (getHandle i : Run S Handle) (getHandle i) := by
  unfold getHandle
  refine (agree_connectionAt hi).bind fun x y hxy => ?_
  have hupdate : Agree (Mirror R π ρ past enough) Eq (update i (fun z => z.token.2.2) : Run S Unit)
      (update i fun z => z.token.2.2) :=
    agree_update i fun z => by rw [Connection.token_under]
  rw [hxy, Connection.token_under]
  obtain ⟨token, isNew, z⟩ := x.token
  dsimp only
  cases isNew with
  | true =>
    refine (agree_note hmirrors _ _ _ _ (by simp)).next fun _ => ?_
    exact hupdate.next fun _ => agree_pure rfl
  | false => exact hupdate.next fun _ => agree_pure rfl

omit [Backend S] hmirrors in
theorem agree_invalidate (h : Handle) :
    Agree (Mirror R π ρ past enough) Eq (invalidate h : Run S Unit) (invalidate h) :=
  agree_update h.connection fun x => x.invalidate_under h.token

omit [Backend S] hmirrors in
theorem agree_addListener (i : Nat) (l : Listener) :
    Agree (Mirror R π ρ past enough) Eq (addListener i l : Run S Unit) (addListener i l) :=
  agree_update i fun _ => rfl

omit [Backend S] hmirrors in
theorem agree_removeListener (i : Nat) (l : Listener) :
    Agree (Mirror R π ρ past enough) Eq (removeListener i l : Run S Unit) (removeListener i l) :=
  agree_update i fun _ => rfl

theorem agree_destroy (hi : i < enough) :
    Agree (Mirror R π ρ past enough) Eq (destroy i : Run S Unit) (destroy i) := by
  unfold destroy
  refine (agree_connectionAt hi).bind fun x y hxy => ?_
  rw [hxy]
  refine (agree_note hmirrors _ _ _ _ (by simp)).next fun _ => ?_
  exact agree_job (hmirrors.act x.client .disconnect)

/-! ### The lock -/

variable (hπ : Function.Injective π)

include hπ

theorem agree_ask (hi : i < enough) (mode : Lock.Mode) :
    Agree (Mirror R π ρ past enough) Eq (ask i mode : Run S Lock.Answer) (ask i mode) := by
  unfold ask
  refine agree_get.bind fun c d hc => ?_
  have hlock : (c.locks.rename π d.locks.registered).lock (π (c.connection i).holder) mode = _ :=
    LockManager.lock_rename hπ c.locks (c.connection i).holder mode
  have hregistered := LockManager.registered_lock c.locks (c.connection i).holder mode
  have hholder : (d.connection i).holder = π (c.connection i).holder := by
    rw [hc.connection hi]
    rfl
  rw [hholder, hc.locks]
  dsimp only
  rw [hlock]
  refine (agree_set (hc.with_locks rfl hregistered)).next fun _ => ?_
  split
  · exact (agree_note hmirrors _ _ _ _ (by simp)).next fun _ => agree_pure rfl
  · exact agree_pure rfl

omit [Backend S] hmirrors in
theorem agree_unlockRead (hi : i < enough) :
    Agree (Mirror R π ρ past enough) Eq (unlockRead i : Run S Unit) (unlockRead i) := by
  unfold unlockRead
  refine (agree_connectionAt hi).bind fun x y hxy => agree_modify fun c d hc => ?_
  refine hc.with_locks ?_ (LockManager.registered_unlockRead c.locks x.holder)
  rw [hxy, hc.locks]
  exact LockManager.unlockRead_rename hπ c.locks x.holder

omit [Backend S] hmirrors in
theorem agree_unlockAll (hi : i < enough) :
    Agree (Mirror R π ρ past enough) Eq (unlockAll i : Run S Unit) (unlockAll i) := by
  unfold unlockAll
  refine (agree_connectionAt hi).bind fun x y hxy => agree_modify fun c d hc => ?_
  refine hc.with_locks ?_ rfl
  rw [hxy, hc.locks]
  exact LockManager.unlockAll_rename hπ c.locks x.holder

/-- A waiting call runs into its time limit under the name that its holder has there. -/
theorem agree_expire (call : Lock.Call) :
    Agree (Mirror R π ρ past enough) Eq (expire call : Run S Unit) (expire (call.rename π)) := by
  unfold expire
  refine agree_get.bind fun c d hc => ?_
  rw [hc.locks, LockManager.expire_rename hπ]
  have hregistered := LockManager.registered_expire c.locks call
  refine (agree_set (hc.with_locks rfl hregistered)).next fun _ => ?_
  change Agree _ Eq (if (c.locks.expire call).gaveUp.contains call.ticket then _ else _)
    (if (c.locks.expire call).gaveUp.contains call.ticket then _ else _)
  split
  · exact agree_note hmirrors _ _ _ _ (by simp)
  · exact agree_pure rfl

omit [Backend S] hmirrors hπ in
theorem agree_outcome (ticket : Nat) {c d : Connector S} (hc : Mirror R π ρ past enough c d) :
    d.outcome ticket = c.outcome ticket := by
  rw [outcome, hc.locks]
  rfl

/-! ### Accesses and cleaning -/

omit hπ in
/-- An accepted write is told to the audit trail by the same record on both sides. -/
theorem agree_perform (haudit : ∀ {o o' : Outside S} (message : String), R o o' →
      R (o.note .info Record.audit message) (o'.note .info Record.audit message))
    (hi : i < enough) (w : Write) :
    Agree (Mirror R π ρ past enough) Eq (perform i w : Run S Unit) (perform i w) := by
  unfold perform
  refine (agree_connectionAt hi).bind fun x y hxy => ?_
  rw [hxy]
  refine (agree_job (hmirrors.act x.client (.write w))).next fun _ => ?_
  refine Agree.next (agree_modify fun c d hc => hc.with_outside (haudit _ hc.outside)) fun _ => ?_
  exact agree_update i fun _ => rfl

omit hπ in
theorem agree_query (hi : i < enough) (text : String) :
    Agree (Mirror R π ρ past enough) Eq (query i text : Run S (Except Fault (List Row)))
      (query i text) := by
  unfold query
  refine (agree_connectionAt hi).bind fun x y hxy => ?_
  rw [hxy]
  exact agree_observe (agree_job (hmirrors.select x.client text))

theorem agree_cleanup (hi : i < enough) :
    Agree (Mirror R π ρ past enough) Eq (cleanup i : Run S Unit) (cleanup i) := by
  unfold cleanup
  refine (agree_connectionAt hi).bind fun x y hxy => ?_
  rw [hxy]
  refine (agree_note hmirrors _ _ _ _ (by simp)).next fun _ => ?_
  have hreset : ∀ z : Connection, (z.under π ρ).reset = z.reset.under π ρ := fun _ => rfl
  refine (agree_update i hreset).next fun _ => ?_
  refine (agree_observe (agree_job (hmirrors.act x.client .invalidate))).next fun result => ?_
  refine (agree_unlockAll hπ hi).next fun _ => ?_
  cases result with
  | ok _ => exact agree_pure rfl
  | error f => exact (agree_note hmirrors _ _ _ _ (by simp)).next fun _ => agree_throw _

theorem agree_tell (kind : EventKind) (holder : Holder) (error : Option String)
    {l : Listener} (hcleans : ∀ other, l.cleans = some other → other < enough) :
    Agree (Mirror R π ρ past enough) Eq (tell kind holder error l : Run S Unit)
      (tell kind (π holder) error l) := by
  unfold tell
  refine (agree_hear (.heard l.id kind holder error)).next fun _ => ?_
  cases hl : l.cleans with
  | none => exact agree_pure rfl
  | some other =>
    refine (agree_observe (agree_cleanup hmirrors hπ (hcleans other hl))).next fun result => ?_
    exact agree_hear (.cleaned l.id result)

omit hπ in
theorem agree_derive (hi : i < enough) (context : String) (writes : List Write) :
    Agree (Mirror R π ρ past enough) Eq (derive i context writes : Run S Derivation.Report)
      (derive i context writes) := by
  unfold derive
  refine (agree_connectionAt hi).bind fun x y hxy => ?_
  rw [hxy]
  refine agree_job ?_
  have hnote : ∀ {o o' : Outside S} (level : Level) (message : String), R o o' →
      R (o.note level Record.derivations message) (o'.note level Record.derivations message) :=
    fun level message ho => hmirrors.note level _ message message
      (fun h => absurd h.2 (by decide)) ho
  refine Derivation.relates_run (V := fun k l => l = ρ k) (R := fun _ _ => R) context writes
    hnote hnote hmirrors.openWorking ?_ fun _ _ _ => hmirrors.shutDownWorking
  rintro working _ rfl
  exact {
    context := rfl
    note := hnote
    target := fun w => hmirrors.act x.client (.write w)
    write := fun w => hmirrors.act working (.write w)
    commit := hmirrors.act working .commit
    disconnect := hmirrors.act working .disconnect
    select := hmirrors.select working
    ask := hmirrors.ask working }

/-! ### Calls of the coordinator -/

omit hπ in
theorem mirror_coordinate (hi : i < enough) (command : Command)
    (hc : Mirror R π ρ past enough c d) :
    (coordinate i command.call c).1 = (coordinate i command.call d).1 ∧
      Mirror R π ρ past enough (coordinate i command.call c).2 (coordinate i command.call d).2 := by
  have hends := Participant.agree_call hmirrors command ⟨(c.connection i).participant, c.outside⟩
    ⟨(d.connection i).participant, d.outside⟩ ⟨by rw [hc.connection hi]; rfl, hc.outside⟩
  have hmatched := hends.states
  refine ⟨hends.result_eq fun _ _ _ _ h => h.1, ?_⟩
  unfold coordinate
  generalize command.call ⟨(c.connection i).participant, c.outside⟩ = done at hmatched ⊢
  generalize command.call ⟨(d.connection i).participant, d.outside⟩ = done' at hmatched ⊢
  refine (hc.with_connection i fun x => ?_).with_outside hmatched.outside
  rw [hmatched.participant]
  rfl

end

end Connector

end GraphCommit
