import GraphCommit.Proofs.Audit
import GraphCommit.Proofs.Recorded

/-!
# The commit phase

A branch that may be committed is committed through its client.  Whether that succeeds depends on
two answers of the client: to the commit, and to the flush that follows it if the strategy is to
flush and the branch has written something.  The connector makes these calls and no others, except
that it lists the recorded transformations after a success when such details are logged, and
whatever comes of that list changes nothing.

When one of the two calls fails, the branch stays as it is, and the audit trail gets one record that
ends with the journal.  The journal lists the writes that were accepted since the connection was
last cleaned, so no operation is missing in the record.
-/

namespace GraphCommit

/-! ## What goes into the log beside the audit trail -/

/-- A log goes on with records that are not of the audit trail. -/
structure Log.Aside (log log' : Log) : Prop where
  threshold : log'.threshold = log.threshold
  records : ∃ rs, log'.records = log.records ++ rs ∧ ∀ r ∈ rs, r.target ≠ Record.audit

namespace Log.Aside

variable {log log' log'' : Log}

theorem refl (log : Log) : log.Aside log := ⟨rfl, [], by simp, by simp⟩

theorem trans (hfirst : log.Aside log') (hsecond : log'.Aside log'') : log.Aside log'' := by
  obtain ⟨rs, hrs, hother⟩ := hfirst.records
  obtain ⟨ss, hss, hothers⟩ := hsecond.records
  refine ⟨hsecond.threshold.trans hfirst.threshold, rs ++ ss, ?_, fun r hr => ?_⟩
  · rw [hss, hrs, List.append_assoc]
  · rcases List.mem_append.mp hr with hr | hr
    · exact hother r hr
    · exact hothers r hr

theorem add {r : Record} (hr : r.target ≠ Record.audit) : log.Aside (log.add r) := by
  refine ⟨threshold_add log r, ?_⟩
  unfold Log.add
  split
  · exact ⟨[r], rfl, by simpa using hr⟩
  · exact ⟨[], by simp, by simp⟩

theorem keeps (haside : log.Aside log') (level : Level) : log'.keeps level = log.keeps level := by
  rw [Log.keeps, haside.threshold]
  rfl

/-- What is told to the audit trail, if nothing is or one record comes at the end. -/
theorem audit (haside : log.Aside log') :
    (log'.records.drop log.records.length).filter (·.target = Record.audit) = [] := by
  obtain ⟨rs, hrs, hother⟩ := haside.records
  rw [hrs, List.drop_left, List.filter_eq_nil_iff]
  intro r hr
  simpa using hother r hr

theorem audit_add (haside : log.Aside log') {r : Record} (hr : r.target = Record.audit) :
    ((log'.add r).records.drop log.records.length).filter (·.target = Record.audit) =
      if log.keeps r.level = true then [r] else [] := by
  obtain ⟨rs, hrs, hother⟩ := haside.records
  have hnone : rs.filter (·.target = Record.audit) = [] := by
    rw [List.filter_eq_nil_iff]
    intro s hs
    simpa using hother s hs
  rw [Log.add, haside.keeps]
  split
  · rw [show log'.records ++ [r] = log.records ++ (rs ++ [r]) by rw [hrs, List.append_assoc],
      List.drop_left, List.filter_append, hnone]
    simp [hr]
  · rw [hrs, List.drop_left, hnone]

end Log.Aside

namespace Effect

variable {ε σ α β : Type} {log : σ → Log}

/-- A computation that says nothing in the audit trail. -/
def IsAside (log : σ → Log) (x : Effect ε σ α) : Prop := ∀ s, (log s).Aside (log (x s).2)

theorem IsAside.bind {x : Effect ε σ α} {f : α → Effect ε σ β} (hx : IsAside log x)
    (hf : ∀ a, IsAside log (f a)) : IsAside log (x >>= f) := by
  intro s
  have hfirst := hx s
  rw [bind_apply]
  rcases hrun : x s with ⟨e | a, t⟩ <;> rw [hrun] at hfirst
  · exact hfirst
  · exact hfirst.trans (hf a t)

theorem isAside_pure (a : α) : IsAside log (pure a : Effect ε σ α) := fun s => .refl (log s)

theorem isAside_get : IsAside log (get : Effect ε σ σ) := fun s => .refl (log s)

theorem isAside_forM {f : β → Effect ε σ Unit} (hf : ∀ b, IsAside log (f b)) (l : List β) :
    IsAside log (l.forM f) := by
  induction l with
  | nil => exact isAside_pure _
  | cons b rest ih => exact (hf b).bind fun _ => ih

end Effect

namespace Participant

open Effect

/-! ## What a commit says -/

theorem isAside_note {S : Type} (level : Level) (message : String) {target : String}
    (htarget : target ≠ Record.audit) :
    IsAside (fun e : Enlisted S => e.outside.log) (note level message target : Call S Unit) :=
  fun _ => .add htarget

section

variable {S : Type} [stores : Backend S]

theorem isAside_strategy_commit (hsilent : stores.Leaves (· = [])) (strategy : Strategy)
    (k : ClientId) (n : Nat) :
    IsAside (fun o : Outside S => o.log) (strategy.commit k n : Job S Unit) := by
  have hact : ∀ a, IsAside (fun o : Outside S => o.log) (k.act a : Job S Unit) := by
    intro a o
    rw [ClientId.act_apply, hsilent.act]
    exact .refl o.log
  refine (hact .commit).bind fun _ => ?_
  cases strategy with
  | plain => exact isAside_pure _
  | flushing =>
    dsimp only
    split
    · have hnote : IsAside (fun o : Outside S => o.log) (Job.note .debug Record.commits
          ("flushing repository after committing " ++ toString n ++ " operations") : Job S Unit) :=
        fun o => Log.Aside.add (show Record.commits ≠ Record.audit by decide)
      refine hnote.bind fun _ o => ?_
      rw [Job.relabel_apply]
      exact hact .flush o
    · exact isAside_pure _

theorem isAside_dumpTransformations (hsilent : stores.Leaves (· = [])) :
    IsAside (fun e : Enlisted S => e.outside.log) (dumpTransformations : Call S Unit) := by
  have hnote : ∀ level message, IsAside (fun e : Enlisted S => e.outside.log)
      (note level message : Call S Unit) :=
    fun level message => isAside_note level message (by decide)
  refine isAside_get.bind fun e => ?_
  split
  · have hselect : IsAside (fun e : Enlisted S => e.outside.log)
        (job (e.participant.client.select Queries.allTransformations) : Call S _) := by
      intro e'
      rw [job_apply, ClientId.select_apply, hsilent.select]
      exact .refl e'.outside.log
    refine hselect.bind fun result => ?_
    cases result with
    | error f => exact hnote _ _
    | ok rows => exact (hnote _ _).bind fun _ => isAside_forM (fun row => hnote _ _) rows
  · exact isAside_pure _

/-- What follows a commit that has succeeded: a branch that has written something is followed by a
list of the transformations. -/
def listAfter (n : Nat) : Call S (Option Vote) := do
  if 0 < n then dumpTransformations
  return none

theorem isAside_listAfter (hsilent : stores.Leaves (· = [])) (n : Nat) :
    IsAside (fun e : Enlisted S => e.outside.log) (listAfter n : Call S (Option Vote)) := by
  unfold listAfter
  split
  · exact (isAside_dumpTransformations hsilent).bind fun _ => isAside_pure _
  · exact isAside_pure _

/-- The list never fails, and changes nothing but the stores and the log. -/
theorem listAfter_apply (n : Nat) (e : Enlisted S) :
    ∃ o, listAfter n e = (.ok none, { e with outside := o }) ∧
      o.stores = if 0 < n ∧ e.outside.log.keeps .debug = true then
        (Backend.select e.outside.stores e.participant.client Queries.allTransformations).state
      else e.outside.stores := by
  rw [listAfter]
  by_cases hn : 0 < n
  · obtain ⟨o, hdump, hstores⟩ := dumpTransformations_apply e
    refine ⟨o, ?_, ?_⟩
    · rw [if_pos hn, bind_apply, hdump]
      rfl
    · rw [hstores]
      simp only [hn, true_and]
  · refine ⟨e.outside, ?_, ?_⟩
    · rw [if_neg hn]
      rfl
    · rw [if_neg fun h => hn h.1]

/-- A commit that is allowed asks the client, and what it answers decides about the branch. -/
theorem commit_apply {x : Xid} {e : Enlisted S} (onePhase : Bool)
    (hallowed : e.participant.branch.checkSuccess x = .ok ()) :
    ∃ o : Outside S, (stores.Leaves (· = []) → e.outside.log.Aside o.log) ∧
      o.log.threshold = e.outside.log.threshold ∧
      o.stores = (e.participant.strategy.onStores e.outside.stores e.participant.client
        e.participant.journal.size).2 ∧
      (Command.commit x onePhase).call e =
        match (e.participant.strategy.onStores e.outside.stores e.participant.client
          e.participant.journal.size).1 with
        | .error f => (.error (.resource x.text f), { e with
            outside := o.note .error Record.audit (notCommitted x e.participant.journal) })
        | .ok _ => listAfter e.participant.journal.size
            ⟨{ e.participant with branch := e.participant.branch.committed }, o⟩ := by
  -- first the call as the strategy's commit decides it, then what the strategy's commit is
  have hcall : ∃ o : Outside S, e.outside.log.Aside o.log ∧ o.stores = e.outside.stores ∧
      (Command.commit x onePhase).call e =
        match e.participant.strategy.commit e.participant.client e.participant.journal.size o with
        | (.error f, t) => (.error (.resource x.text f), { e with
            outside := t.note .error Record.audit (notCommitted x e.participant.journal) })
        | (.ok _, t) => listAfter e.participant.journal.size
            ⟨{ e.participant with branch := e.participant.branch.committed }, t⟩ := by
    refine ⟨e.outside.note .debug Record.participant ("commit transaction xid " ++ x.text ++
      " (one phase: " ++ (if onePhase then "true" else "false") ++ ")"),
      .add (show Record.participant ≠ Record.audit by decide), rfl, ?_⟩
    simp only [Command.call, commit, complete, listAfter, bind_apply, note_apply, decide_apply,
      hallowed, get_apply, job_apply]
    generalize e.outside.note _ _ _ = o
    rcases e.participant.strategy.commit e.participant.client e.participant.journal.size o with
      ⟨f | _, t⟩
    · rfl
    · by_cases hwrote : 0 < e.participant.journal.size
      · simp only [bind_apply, move_apply, if_pos hwrote]
      · simp only [bind_apply, move_apply, if_neg hwrote]
        rfl
  obtain ⟨o, haside, hstores, hcall⟩ := hcall
  obtain ⟨log, hthreshold, hcommit⟩ := strategy_commit_apply e.participant.strategy
    e.participant.client e.participant.journal.size o
  refine ⟨⟨_, log⟩, fun hsilent => ?_, hthreshold.trans haside.threshold, rfl, ?_⟩
  · have hsaid := isAside_strategy_commit hsilent e.participant.strategy e.participant.client
      e.participant.journal.size o
    rw [hcommit] at hsaid
    exact haside.trans hsaid
  · rw [hcall, hcommit, hstores]
    cases (e.participant.strategy.onStores e.outside.stores e.participant.client
      e.participant.journal.size).1 <;> rfl

/-! ## What a commit asks -/

/-- What the client answers when it is told to commit. -/
def commitResult (p : Participant) (s : S) : Except Fault Unit :=
  (Backend.act s p.client .commit).result

/-- What the client answers when it is told to flush after that. -/
def flushResult (p : Participant) (s : S) : Except Fault Unit :=
  (Backend.act (Backend.act s p.client .commit).state p.client .flush).result

/-- Whether a commit is followed by a flush. -/
def flushes (p : Participant) (s : S) : Bool :=
  p.strategy == .flushing && (p.commitResult s).isOk && 0 < p.journal.size

/-- Whether all calls of a commit succeed. -/
def succeeds (p : Participant) (s : S) : Bool :=
  (p.commitResult s).isOk && (!p.flushes s || (p.flushResult s).isOk)

/-- Whether a commit is followed by a list of the recorded transformations. -/
def lists (p : Participant) (s : S) (log : Log) : Bool :=
  p.succeeds s && 0 < p.journal.size && log.keeps .debug

/-- The calls of a commit. -/
def questions (p : Participant) (s : S) (log : Log) : List Question :=
  [Question.act p.client .commit] ++ (if p.flushes s then [Question.act p.client .flush] else []) ++
    if p.lists s log then [Question.select p.client Queries.allTransformations] else []

variable {p : Participant} {s : S}

theorem onStores_eq (p : Participant) (s : S) :
    p.strategy.onStores s p.client p.journal.size =
      match p.commitResult s with
      | .error f => (.error f, (Backend.act s p.client .commit).state)
      | .ok _ =>
        if p.flushes s then
          ((p.flushResult s).mapError Strategy.asFlushFault,
            (Backend.act (Backend.act s p.client .commit).state p.client .flush).state)
        else (.ok (), (Backend.act s p.client .commit).state) := by
  unfold Strategy.onStores flushes commitResult flushResult
  rcases Backend.act s p.client .commit with ⟨f | _, t, records⟩
  · rfl
  · cases p.strategy with
    | plain => simp
    | flushing => simp [Except.isOk, Except.toBool]

/-- A client is committed when all its answers are good. -/
theorem onStores_eq_ok_iff :
    (p.strategy.onStores s p.client p.journal.size).1 = .ok () ↔ p.succeeds s = true := by
  rw [onStores_eq, succeeds]
  cases hcommit : p.commitResult s with
  | error f => simp [Except.isOk, Except.toBool]
  | ok _ =>
    cases hflushes : p.flushes s with
    | false => simp [Except.isOk, Except.toBool]
    | true => cases p.flushResult s <;> simp [Except.isOk, Except.toBool, Except.mapError]

/-- Otherwise one of them is the fault. -/
theorem exists_fault (hfails : p.succeeds s = false) :
    ∃ f, (p.strategy.onStores s p.client p.journal.size).1 = .error f := by
  cases hresult : (p.strategy.onStores s p.client p.journal.size).1 with
  | error f => exact ⟨f, rfl⟩
  | ok _ =>
    rw [onStores_eq_ok_iff.mp hresult] at hfails
    contradiction

theorem onStores_of_commitFails {f : Fault} (hcommit : p.commitResult s = .error f) :
    (p.strategy.onStores s p.client p.journal.size).1 = .error f := by
  rw [onStores_eq, hcommit]

theorem onStores_of_flushFails {f : Fault} (hflushes : p.flushes s = true)
    (hflush : p.flushResult s = .error f) :
    (p.strategy.onStores s p.client p.journal.size).1 = .error (Strategy.asFlushFault f) := by
  rw [onStores_eq]
  cases hcommit : p.commitResult s with
  | error g => simp [flushes, hcommit, Except.isOk, Except.toBool] at hflushes
  | ok _ => simp [hflushes, hflush, Except.mapError]

omit stores in
theorem asFlushFault_cases (f : Fault) :
    ∃ reason, Strategy.asFlushFault f = .flush reason ∧ (∀ r, f = .flush r → reason = r) ∧
      ((∀ r, f ≠ .flush r) → reason = f.message) := by
  cases f with
  | flush reason => exact ⟨reason, rfl, by simp, by simp⟩
  | _ => exact ⟨_, rfl, by simp, fun _ => rfl⟩

end

/-! ## The whole call -/

section

variable {S : Type} [stores : Backend S] {e : Enlisted S} {x : Xid}

/-- What a commit says in the audit trail. -/
theorem audit_commit (hsilent : stores.Leaves (· = [])) (onePhase : Bool)
    (hallowed : e.participant.branch.checkSuccess x = .ok ()) :
    ((((Command.commit x onePhase).call e).2.outside.log.records.drop
        e.outside.log.records.length).filter (·.target = Record.audit)) =
      if e.participant.succeeds e.outside.stores = false ∧ e.outside.log.keeps .error = true then
        [⟨.error, Record.audit, notCommitted x e.participant.journal⟩]
      else [] := by
  obtain ⟨o, haside, -, -, hcall⟩ := commit_apply onePhase hallowed
  rw [hcall]
  cases hsucceeds : e.participant.succeeds e.outside.stores with
  | true =>
    rw [onStores_eq_ok_iff.mpr hsucceeds]
    have hlast := isAside_listAfter hsilent e.participant.journal.size
      ⟨{ e.participant with branch := e.participant.branch.committed }, o⟩
    simp only [Bool.true_eq_false, false_and, if_false]
    exact (Log.Aside.trans (haside hsilent) hlast).audit
  | false =>
    obtain ⟨f, hf⟩ := exists_fault hsucceeds
    rw [hf]
    have haudit := (haside hsilent).audit_add (r := ⟨.error, Record.audit,
      notCommitted x e.participant.journal⟩) rfl
    simp only [true_and]
    exact haudit

/-- What a commit comes to: the answer, the participant and the stores after it. -/
theorem commit_outcome (onePhase : Bool)
    (hallowed : e.participant.branch.checkSuccess x = .ok ()) :
    (e.participant.succeeds e.outside.stores = true ∧ ∃ o,
      (Command.commit x onePhase).call e =
        (.ok none, ⟨{ e.participant with branch := e.participant.branch.committed }, o⟩) ∧
      o.stores = if e.participant.lists e.outside.stores e.outside.log then
          (Backend.select (e.participant.strategy.onStores e.outside.stores e.participant.client
            e.participant.journal.size).2 e.participant.client Queries.allTransformations).state
        else (e.participant.strategy.onStores e.outside.stores e.participant.client
          e.participant.journal.size).2) ∨
    (e.participant.succeeds e.outside.stores = false ∧ ∃ f o,
      (e.participant.strategy.onStores e.outside.stores e.participant.client
        e.participant.journal.size).1 = .error f ∧
      (Command.commit x onePhase).call e = (.error (.resource x.text f), ⟨e.participant, o⟩) ∧
      o.stores = (e.participant.strategy.onStores e.outside.stores e.participant.client
        e.participant.journal.size).2) := by
  obtain ⟨o, -, hthreshold, hstores, hcall⟩ := commit_apply onePhase hallowed
  cases hsucceeds : e.participant.succeeds e.outside.stores with
  | true =>
    refine Or.inl ⟨rfl, ?_⟩
    rw [onStores_eq_ok_iff.mpr hsucceeds] at hcall
    -- the listing comes after the commit and cannot make it fail
    obtain ⟨o', hlist, hstores'⟩ := listAfter_apply e.participant.journal.size
      ⟨{ e.participant with branch := e.participant.branch.committed }, o⟩
    refine ⟨o', hcall.trans hlist, ?_⟩
    have hkeeps : o.log.keeps .debug = e.outside.log.keeps .debug := by
      rw [Log.keeps, hthreshold]
      rfl
    rw [hstores', hkeeps, hstores]
    simp only [lists, hsucceeds, Bool.true_and, Bool.and_eq_true, decide_eq_true_eq]
  | false =>
    obtain ⟨f, hf⟩ := exists_fault hsucceeds
    rw [hf] at hcall
    exact Or.inr ⟨rfl, f, _, hf, hcall, hstores⟩

end

end Participant

/-! ## The questions in the history -/

namespace Recorded

variable {S : Type} [Backend S]

/-- What was asked so far. -/
def questions (r : Recorded S) : List Question := r.history.map Entry.question

omit [Backend S] in
theorem questions_put {α : Type} (r : Recorded S) (q : Question) (answer : S → Response S α) :
    (r.put q answer).state.questions = r.questions ++ [q] := by
  simp [questions, put]

theorem questions_onStores (p : Participant) (r : Recorded S) :
    (p.strategy.onStores r p.client p.journal.size).2.questions =
      r.questions ++ ([.act p.client .commit] ++
        if p.flushes r then [.act p.client .flush] else []) := by
  have hcommit : (Backend.act r p.client .commit).state.questions =
      r.questions ++ [.act p.client .commit] := r.questions_put _ _
  have hflush : (Backend.act (Backend.act r p.client .commit).state p.client
      .flush).state.questions = r.questions ++ [.act p.client .commit] ++ [.act p.client .flush] :=
    hcommit ▸ questions_put _ _ _
  rw [Participant.onStores_eq]
  cases hresult : p.commitResult r with
  | error f =>
    have hnone : p.flushes r = false := by
      simp [Participant.flushes, hresult, Except.isOk, Except.toBool]
    simp [hcommit, hnone]
  | ok _ =>
    cases hflushes : p.flushes r with
    | false => simp [hcommit]
    | true => simp [hflush]

end Recorded

namespace Connector

open Participant

variable {S : Type} [stores : Backend S]

/-! ## The commit of a connection -/

/-- What the commit of the branch of a connection makes of a connector `c`: it answers, it leaves
the connector `d`, and it says something in the audit trail. -/
structure CommitPhase (c d : Connector (Recorded S)) (i : Nat) (x : Xid) (writes : List Write)
    (answer : Except BranchFault (Option Vote)) (audit : List Record) : Prop where
  /-- The client is told to commit, then to flush if the commit succeeded, the strategy is to flush
  and the branch has written something; and only after a success it may be asked for the recorded
  transformations.  Nothing else is asked. -/
  questions : d.outside.stores.questions = c.outside.stores.questions ++
    (c.connection i).participant.questions c.outside.stores c.outside.log
  /-- It is answered without a fault exactly when these calls succeed, whatever the client answers
  to the list of transformations. -/
  answers : answer = .ok none ↔ (c.connection i).participant.succeeds c.outside.stores = true
  /-- Then the branch is committed and keeps all but its state, and there is nothing to report. -/
  done : (c.connection i).participant.succeeds c.outside.stores = true →
    d.connection i = { c.connection i with
      participant := { (c.connection i).participant with
        branch := { (c.connection i).participant.branch with phase := .committed } } } ∧
    audit = []
  /-- A commit that fails is reported with the transaction and the client's fault. -/
  commitFails : ∀ f, (c.connection i).participant.commitResult c.outside.stores = .error f →
    answer = .error (.resource x.text f)
  /-- So is a flush that fails, of which any fault is reported as a failed flush. -/
  flushFails : (c.connection i).participant.flushes c.outside.stores = true →
    ∀ f, (c.connection i).participant.flushResult c.outside.stores = .error f →
    ∃ reason, answer = .error (.resource x.text (.flush reason)) ∧
      (∀ r, f = .flush r → reason = r) ∧ ((∀ r, f ≠ .flush r) → reason = f.message)
  /-- Then no connection changes, and the audit trail gets one record of an error, which ends with
  the journal. -/
  undone : (c.connection i).participant.succeeds c.outside.stores = false →
    (∀ j, d.connection j = c.connection j) ∧
    audit = if c.outside.log.keeps .error = true then
        [⟨.error, Record.audit, "TRANSACTION " ++ x.text ++
          " HAS NOT BEEN COMMITTED! THE FOLLOWING OPERATIONS MUST BE ROLLED BACK: " ++
          ("[" ++ ", ".intercalate (writes.map Write.text) ++ "]")⟩]
      else []
  /-- The lock and the other connections stay as they are in any case. -/
  others : d.locks = c.locks ∧ ∀ j, j ≠ i → d.connection j = c.connection j

/-- Only a connection that exists has a branch. -/
theorem lt_of_allowed {S : Type} {c : Connector S} {i : Nat} {x : Xid}
    (hallowed : (c.connection i).participant.branch.checkSuccess x = .ok ()) :
    i < c.core.size := by
  by_contra hi
  have hnone : c.connection i = default :=
    Core.connection_of_ge (c := c.core) (Nat.le_of_not_lt hi)
  rw [hnone, Branch.checkSuccess_eq_ok_iff] at hallowed
  have hxid : (none : Option Xid) = some x := hallowed.1
  contradiction

/-- What is said in the audit trail by a commit. -/
theorem audit_spoken {c : Connector S} {i : Nat} {x : Xid} (onePhase : Bool)
    (hallowed : (c.connection i).participant.branch.checkSuccess x = .ok ()) :
    ((Piece.coordinate i (.commit x onePhase)).spoken c).filter (·.target = Record.audit) =
      if (c.connection i).participant.succeeds c.outside.stores = false ∧
          c.outside.log.keeps .error = true then
        [⟨.error, Record.audit, notCommitted x (c.connection i).journal⟩]
      else [] :=
  @audit_commit S stores.hushed ⟨(c.connection i).participant, c.outside⟩ x
    stores.leaves_hushed onePhase hallowed

/-- What a call of the coordinator leaves, with the answer that it gets. -/
structure Leaves (c d : Connector S) (i : Nat)
    (outcome : Except BranchFault (Option Vote) × Enlisted S)
    (answer : Except BranchFault (Option Vote)) : Prop where
  answer : answer = outcome.1
  self : d.connection i = { c.connection i with participant := outcome.2.participant }
  others : ∀ j, j ≠ i → d.connection j = c.connection j
  stores : d.outside.stores = outcome.2.outside.stores
  locks : d.locks = c.locks

theorem leaves_coordinate {c : Connector S} {i : Nat} (command : Command) (hi : i < c.core.size) :
    Leaves c (c.after (.coordinate i command)) i
      (command.call ⟨(c.connection i).participant, c.outside⟩)
      (coordinate i command.call c).1 := by
  generalize houtcome : command.call ⟨(c.connection i).participant, c.outside⟩ = outcome
  have hcore : (c.after (.coordinate i command)).core =
      c.core.enact i outcome.2.participant outcome.2.outside.stores := houtcome ▸ rfl
  have hanswer : (coordinate i command.call c).1 = outcome.1 := houtcome ▸ rfl
  generalize c.after (.coordinate i command) = d at hcore
  refine ⟨hanswer, ?_, fun j hj => ?_, congrArg Core.stores hcore, congrArg Core.locks hcore⟩
  · change d.core.connection i = _
    rw [hcore]
    exact Core.connection_enact_self hi
  · change d.core.connection j = _
    rw [hcore]
    exact Core.connection_enact_ne hj

/-- A commit that is allowed is carried out as it should be. -/
theorem commitPhase {c : Connector (Recorded S)} {i : Nat} {x : Xid} (onePhase : Bool)
    (hallowed : (c.connection i).participant.branch.checkSuccess x = .ok ()) :
    CommitPhase c (c.after (.coordinate i (.commit x onePhase))) i x
      (c.connection i).journal.writes
      (coordinate i (Command.commit x onePhase).call c).1
      (((Piece.coordinate i (.commit x onePhase)).spoken c).filter (·.target = Record.audit)) := by
  have hleaves := leaves_coordinate (.commit x onePhase) (lt_of_allowed hallowed)
  have hasked := Recorded.questions_onStores (c.connection i).participant c.outside.stores
  rw [audit_spoken onePhase hallowed]
  -- from here on only what the call leaves matters, not how it comes about
  generalize c.after (.coordinate i (.commit x onePhase)) = d at hleaves
  generalize (coordinate i (Command.commit x onePhase).call c).1 = answer at hleaves
  rcases commit_outcome (e := ⟨(c.connection i).participant, c.outside⟩) onePhase hallowed with
    ⟨hsucceeds, o, hcommit, hstores⟩ | ⟨hfails, f, o, hf, hcommit, hstores⟩
  · rw [hcommit] at hleaves
    obtain ⟨rfl, hself, hothers, hleft, hlocks⟩ := hleaves
    dsimp only at hsucceeds hstores
    have hnone := onStores_eq_ok_iff.mpr hsucceeds
    refine ⟨?_, by simp [hsucceeds], fun _ => ⟨hself, by simp [hsucceeds]⟩, ?_, ?_,
      by simp [hsucceeds], hlocks, hothers⟩
    · rw [hleft, hstores, Participant.questions, ← List.append_assoc, ← hasked]
      split
      · exact Recorded.questions_put _ _ _
      · rw [List.append_nil]
    · intro f hf
      exact absurd (hnone.symm.trans (onStores_of_commitFails hf)) (by simp)
    · intro hflushes f hf
      exact absurd (hnone.symm.trans (onStores_of_flushFails hflushes hf)) (by simp)
  · rw [hcommit] at hleaves
    obtain ⟨rfl, hself, hothers, hleft, hlocks⟩ := hleaves
    dsimp only at hfails hstores hf
    have hlists : (c.connection i).participant.lists c.outside.stores c.outside.log = false := by
      simp [lists, hfails]
    refine ⟨?_, by simp [hfails], by simp [hfails], ?_, ?_, fun _ => ⟨fun j => ?_, ?_⟩, hlocks,
      hothers⟩
    · rw [hleft, hstores, hasked, Participant.questions, hlists]
      simp only [Bool.false_eq_true, if_false, List.append_nil]
    · intro g hg
      rw [onStores_of_commitFails hg] at hf
      rw [Except.error.inj hf]
    · intro hflushes g hg
      rw [onStores_of_flushFails hflushes hg] at hf
      obtain ⟨reason, hreason, hsame, hother⟩ := asFlushFault_cases g
      exact ⟨reason, by rw [← Except.error.inj hf, hreason], hsame, hother⟩
    · by_cases hj : j = i
      · rw [hj, hself]
      · exact hothers j hj
    · simp only [hfails, true_and]
      rfl

end Connector

/-! ## The choice of a strategy -/

/-- The client of a connection and how it is committed. -/
def Connection.setup (x : Connection) : ClientId × Strategy :=
  (x.participant.client, x.participant.strategy)

section

variable {S : Type} [Backend S] {i : Nat}

/-- Nothing that is done later changes the client and the strategy of a connection. -/
theorem Piece.Does.setup {k k' : Core S} {p : Piece} (hdoes : p.Does k k') (hi : i < k.size) :
    (k'.connection i).setup = (k.connection i).setup := by
  cases hdoes with
  | createdNone hplain => rfl
  | created strategy derives hplain hclient =>
    rw [Core.connection_enlist_of_lt (c := k.create) hi]
    rfl
  | kept hplain hparticipant hnumbers =>
    refine Core.connection_update_keeps Connection.setup fun x => ?_
    rw [Connection.setup, hparticipant]
    rfl
  | locked locks hplain => rfl
  | asked stores hplain => rfl
  | @wrote j w =>
    unfold Core.perform
    split
    · exact Core.connection_update_keeps (c := k.act j (.write w)) Connection.setup fun _ => rfl
    · rfl
  | @coordinated j command q t answer hobeys =>
    by_cases hij : i = j
    · subst hij
      obtain ⟨hclient, hstrategy, -⟩ := hobeys.keeps
      rw [Core.connection_enact_self hi]
      exact Prod.ext hclient hstrategy
    · rw [Core.connection_enact_ne hij]
  | @cleaned _ j hcleaned =>
    exact Core.connection_update_keeps (c := k.act j .invalidate) Connection.setup fun _ => rfl

namespace Connector

theorem setup_follow {c : Connector S} (ps : List Piece) (hi : i < c.core.size) :
    ((c.follow ps).connection i).setup = (c.connection i).setup := by
  induction ps generalizing c with
  | nil => rfl
  | cons p rest ih =>
    have hdoes := p.does_after c
    exact (ih (Nat.lt_of_lt_of_le hi hdoes.size_le)).trans (hdoes.setup hi)

/-- The strategy of a connection is the one that was asked for when it was made, or else the one
that the durability of its store needs. -/
structure Chosen (c : Connector S) (p : Piece) (client : ClientId) (strategy : Strategy) :
    Prop where
  given : ∀ asked, p = .connectWith asked → strategy = asked
  byDurability : p = .connect → (strategy = .flushing ↔
    Backend.durability (Backend.create c.outside.stores).state client = .onShutdown)

theorem chosen_after {c : Connector S} {p : Piece} (hi : c.core.size = i)
    (hmade : i < (c.after p).core.size) :
    Chosen c p ((c.after p).connection i).participant.client
      ((c.after p).connection i).participant.strategy := by
  subst hi
  have hnone : c.core.create.size = c.core.size := rfl
  refine ⟨?_, ?_⟩
  · rintro asked rfl
    rw [after, Piece.run, Effect.map_snd] at hmade ⊢
    rcases connectWith_cases asked c with hcore | ⟨client, -, hcore⟩
    · rw [hcore] at hmade
      exact absurd hmade (Nat.lt_irrefl _)
    · change ((connectWith asked c).2.core.connection c.core.create.size).participant.strategy = _
      rw [hcore, Core.connection_enlist_self]
  · rintro rfl
    rw [after, Piece.run, Effect.map_snd] at hmade ⊢
    rcases connect_cases c with hcore | ⟨client, -, hcore⟩
    · rw [hcore] at hmade
      exact absurd hmade (Nat.lt_irrefl _)
    · have hself : (connect c).2.connection c.core.create.size =
          (connect c).2.core.connection c.core.create.size := rfl
      rw [← hnone, hself, hcore, Core.connection_enlist_self]
      change Strategy.ofDurability (Backend.durability (Backend.create c.outside.stores).state
        client) = .flushing ↔ _
      cases Backend.durability (Backend.create c.outside.stores).state client <;>
        simp [Strategy.ofDurability]

/-- A strategy stays as it was chosen. -/
theorem chosen_follow {c₀ : Connector S} {before later : List Piece} {p : Piece}
    (hi : (c₀.follow before).core.size = i) (hmade : i < ((c₀.follow before).after p).core.size) :
    Chosen (c₀.follow before) p
      ((c₀.follow (before ++ p :: later)).connection i).participant.client
      ((c₀.follow (before ++ p :: later)).connection i).participant.strategy := by
  have hsetup := setup_follow later hmade
  have hend : c₀.follow (before ++ p :: later) = ((c₀.follow before).after p).follow later :=
    follow_append c₀ before (p :: later)
  have hclient := congrArg Prod.fst hsetup
  have hstrategy := congrArg Prod.snd hsetup
  rw [Connection.setup] at hclient hstrategy
  dsimp only at hclient hstrategy
  rw [hend, hclient, hstrategy]
  exact chosen_after hi hmade

/-! ## The whole statement -/

/-- What the commit of a branch comes to at the end of a run. -/
structure CommitsOrReports (c₀ : Connector (Recorded S)) (ps : List Piece) (i : Nat) (x : Xid)
    (onePhase : Bool) : Prop where
  /-- The commit is carried out, and what it may have to report are the writes that were accepted
  since the connection was last cleaned, in the order of the calls. -/
  phase : CommitPhase (c₀.follow ps) ((c₀.follow ps).after (.coordinate i (.commit x onePhase))) i x
    (accepted i (since i (c₀.trail ps)))
    (coordinate i (Command.commit x onePhase).call (c₀.follow ps)).1
    (((Piece.coordinate i (.commit x onePhase)).spoken (c₀.follow ps)).filter
      (·.target = Record.audit))
  /-- The strategy is as it was chosen by the piece that made the connection. -/
  strategy : ∀ before p later, ps = before ++ p :: later → (c₀.follow before).core.size = i →
    i < ((c₀.follow before).after p).core.size →
    Chosen (c₀.follow before) p ((c₀.follow ps).connection i).participant.client
      ((c₀.follow ps).connection i).participant.strategy

/-- In every run of pieces, a branch that is adopted and marked for commit is committed when its
client could do so, and else stays as it is and is reported. -/
theorem commits_or_reports {c₀ : Connector (Recorded S)} {ps : List Piece} {x : Xid}
    (hnew : c₀.connections = []) (hps : c₀.Allows ps) (onePhase : Bool)
    (hxid : ((c₀.follow ps).connection i).participant.branch.xid = some x)
    (hsuccess : ((c₀.follow ps).connection i).participant.branch.success = true) :
    c₀.CommitsOrReports ps i x onePhase where
  phase := by
    rw [← (exact_follow hnew ps hps i).journal]
    exact commitPhase onePhase (Branch.checkSuccess_eq_ok_iff.mpr ⟨hxid, hsuccess⟩)
  strategy := by
    rintro before p later rfl hi hmade
    exact chosen_follow hi hmade

/-- Two writes are committed, but then the store cannot flush. -/
theorem commits_or_reports_unflushed :
    ∃ (S : Type) (_ : Backend S) (c₀ : Connector (Recorded S)) (ps : List Piece) (x : Xid),
      c₀.CommitsOrReports ps 0 x false ∧
      (coordinate 0 (Command.commit x false).call (c₀.follow ps)).1 =
        .error (.resource x.text (.flush "Semantic repository connection error: full")) ∧
      ((Piece.coordinate 0 (.commit x false)).spoken (c₀.follow ps)).filter
          (·.target = Record.audit) =
        [⟨.error, Record.audit,
          Participant.notCommitted x ⟨[.clear "urn:g", .addData "u" "b" "urn:g"]⟩⟩] := by
  -- stores that hold data in memory until they are flushed, and cannot be flushed
  let stores : Backend Unit :=
    { durability := fun _ _ => .onShutdown
      act := fun s _ a => if a = .flush then .fail (.connection "full") s else .ok () s
      select := fun s _ _ => .ok [] s
      ask := fun s _ _ => .ok true s
      create := fun s => .ok ⟨1⟩ s
      openWorking := fun s => .ok ⟨0⟩ s
      shutDownWorking := fun s => .ok () s }
  let c₀ : Connector (Recorded Unit) :=
    { settings := {}, locks := {}, outside := ⟨⟨(), []⟩, ⟨some .info, []⟩⟩, hasWorking := false }
  let x : Xid := ⟨1, [1], [2]⟩
  let ps : List Piece :=
    [.connect, .coordinate 0 (.start x Flags.none), .write 0 (.clear "urn:g"),
      .write 0 (.addData "u" "b" "urn:g"), .coordinate 0 (.finish x Flags.success)]
  have hallows : c₀.Allows ps := by
    refine ⟨Piece.fits_of_none rfl rfl, Piece.fits_of_lt (by decide) rfl rfl,
      Piece.fits_of_lt (by decide) rfl rfl, Piece.fits_of_lt (by decide) rfl rfl,
      Piece.fits_of_lt (by decide) rfl rfl, trivial⟩
  have hcommits : c₀.CommitsOrReports ps 0 x false :=
    commits_or_reports rfl hallows false (by rfl) (by rfl)
  obtain ⟨reason, hanswer, -, hother⟩ := hcommits.phase.flushFails (by rfl) (.connection "full")
    (by rfl)
  refine ⟨Unit, stores, c₀, ps, x, hcommits, ?_, ?_⟩
  · rw [hanswer, hother (by simp)]
    rfl
  · rw [(hcommits.phase.undone (by rfl)).2]
    rfl

end Connector

end

end GraphCommit
