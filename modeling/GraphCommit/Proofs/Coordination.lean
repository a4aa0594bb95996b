import GraphCommit.Branch.Participant
import GraphCommit.Proofs.Effect

/-!
# Calls of the coordinator

The five calls that move a branch, as one type of commands, and one statement on all of them.
`Command.decision` is what the branch alone says to a command.  `Obeys` lists what a participant
does about it: a refused command changes nothing, `start`, `end` and `prepare` change the branch
only, and `commit` and `rollback` work on the stores before they change it.
-/

namespace GraphCommit

/-- A call of the coordinator. -/
inductive Command where
  | start (x : Xid) (flags : Flags)
  | finish (x : Xid) (flags : Flags)
  | prepare (x : Xid)
  | commit (x : Xid) (onePhase : Bool)
  | rollback (x : Xid)
  deriving DecidableEq, Repr

namespace Command

/-- The call on a participant.  Only `prepare` is answered by a vote. -/
def call {S : Type} [Backend S] : Command → Participant.Call S (Option Vote)
  | start x flags => do
    Participant.start x flags
    return none
  | finish x flags => do
    Participant.finish x flags
    return none
  | prepare x => some <$> Participant.prepare x
  | commit x onePhase => do
    Participant.commit x onePhase
    return none
  | rollback x => do
    Participant.rollback x
    return none

/-- What a branch says to a command: it refuses it, or it votes and moves on. -/
def decision (b : Branch) (wroteNothing : Bool) :
    Command → Except BranchFault (Option Vote × Branch)
  | start x flags => (b.start x flags).map fun moved => (none, moved)
  | finish x flags => (b.finish x flags).map fun moved => (none, moved)
  | prepare x => (b.prepare x wroteNothing).map fun voted => (some voted.1, voted.2)
  | commit x _ => (b.checkSuccess x).map fun _ => (none, b.committed)
  | rollback x => (b.check x).map fun _ => (none, b.rolledBack)

/-- Whether a command does nothing to the stores. -/
def isLocal : Command → Bool
  | commit .. => false
  | rollback _ => false
  | _ => true

end Command

/-! ## What a branch accepts and refuses -/

namespace Branch

/-- The commands that a branch accepts, with the branch after them. -/
inductive Accepts (b : Branch) (wroteNothing : Bool) : Command → Branch → Prop
  | adopt {x : Xid} (hphase : b.phase = .idle) :
      Accepts b wroteNothing (.start x Flags.none) ⟨some x, false, .active⟩
  | rejoin {x : Xid} {flags : Flags} (hflags : flags = Flags.resume ∨ flags = Flags.join)
      (hxid : b.xid = some x) :
      Accepts b wroteNothing (.start x flags) { b with phase := .active }
  | succeed {x : Xid} (hxid : b.xid = some x) :
      Accepts b wroteNothing (.finish x Flags.success) { b with success := true, phase := .ended }
  | fail {x : Xid} (hxid : b.xid = some x) :
      Accepts b wroteNothing (.finish x Flags.fail) { b with success := false, phase := .ended }
  | suspend {x : Xid} (hxid : b.xid = some x) :
      Accepts b wroteNothing (.finish x Flags.suspend) { b with phase := .suspended }
  | voteReadOnly {x : Xid} (hxid : b.xid = some x) (hsuccess : b.success = true)
      (hwrote : wroteNothing = true) :
      Accepts b wroteNothing (.prepare x) { b with phase := .committed }
  | voteOk {x : Xid} (hxid : b.xid = some x) (hsuccess : b.success = true)
      (hwrote : wroteNothing = false) :
      Accepts b wroteNothing (.prepare x) { b with phase := .prepared }
  | commit {x : Xid} {onePhase : Bool} (hxid : b.xid = some x) (hsuccess : b.success = true) :
      Accepts b wroteNothing (.commit x onePhase) b.committed
  | rollback {x : Xid} (hxid : b.xid = some x) :
      Accepts b wroteNothing (.rollback x) b.rolledBack

/-- The commands that do not fit a branch, with the faults that say why: they name another branch
than the adopted one, they adopt a second one, or their flags are not supported. -/
inductive Refuses (b : Branch) : Command → BranchFault → Prop
  | startAgain {x : Xid} (hphase : b.phase ≠ .idle) :
      Refuses b (.start x Flags.none) (b.refusal x)
  | startOther {x : Xid} {flags : Flags} (hflags : flags = Flags.resume ∨ flags = Flags.join)
      (hxid : b.xid ≠ some x) : Refuses b (.start x flags) (b.refusal x)
  | startUnsupported {x : Xid} {flags : Flags} (hnone : flags ≠ Flags.none)
      (hresume : flags ≠ Flags.resume) (hjoin : flags ≠ Flags.join) :
      Refuses b (.start x flags) (.unsupportedFlag flags)
  | finishOther {x : Xid} {flags : Flags} (hxid : b.xid ≠ some x) :
      Refuses b (.finish x flags) (b.refusal x)
  | finishUnsupported {x : Xid} {flags : Flags} (hxid : b.xid = some x)
      (hsuccess : flags ≠ Flags.success) (hfail : flags ≠ Flags.fail)
      (hsuspend : flags ≠ Flags.suspend) : Refuses b (.finish x flags) (.unsupportedFlag flags)
  | prepareOther {x : Xid} (hxid : b.xid ≠ some x) : Refuses b (.prepare x) (b.refusal x)
  | commitOther {x : Xid} {onePhase : Bool} (hxid : b.xid ≠ some x) :
      Refuses b (.commit x onePhase) (b.refusal x)
  | rollbackOther {x : Xid} (hxid : b.xid ≠ some x) : Refuses b (.rollback x) (b.refusal x)

theorem check_of_eq {b : Branch} {x : Xid} (hxid : b.xid = some x) : b.check x = .ok () :=
  if_pos hxid

theorem check_of_ne {b : Branch} {x : Xid} (hxid : b.xid ≠ some x) :
    b.check x = .error (b.refusal x) :=
  if_neg hxid

theorem checkSuccess_of_eq {b : Branch} {x : Xid} (hxid : b.xid = some x) :
    b.checkSuccess x = if b.success then .ok () else .error (.rollbackOnly x.text) := by
  simp only [checkSuccess, check_of_eq hxid]
  rfl

theorem checkSuccess_of_ne {b : Branch} {x : Xid} (hxid : b.xid ≠ some x) :
    b.checkSuccess x = .error (b.refusal x) := by
  simp only [checkSuccess, check_of_ne hxid]
  rfl

theorem checkSuccess_eq_ok_iff {b : Branch} {x : Xid} :
    b.checkSuccess x = .ok () ↔ b.xid = some x ∧ b.success = true := by
  by_cases hxid : b.xid = some x
  · rw [checkSuccess_of_eq hxid]
    cases hsuccess : b.success <;> simp [hxid]
  · rw [checkSuccess_of_ne hxid]
    simp [hxid]

theorem finish_of_ne {b : Branch} {x : Xid} (flags : Flags) (hxid : b.xid ≠ some x) :
    b.finish x flags = .error (b.refusal x) := by
  simp only [finish, check_of_ne hxid]
  rfl

theorem prepare_of_ne {b : Branch} {x : Xid} (wroteNothing : Bool) (hxid : b.xid ≠ some x) :
    b.prepare x wroteNothing = .error (b.refusal x) := by
  simp only [prepare, checkSuccess_of_ne hxid]
  rfl

section

variable {b moved : Branch} {wroteNothing : Bool} {x : Xid} {flags : Flags}

theorem accepts_of_start (hstart : b.start x flags = .ok moved) :
    b.Accepts wroteNothing (.start x flags) moved := by
  by_cases hnone : flags = Flags.none
  · subst hnone
    by_cases hphase : b.phase = .idle
    · obtain rfl := by simpa [start, hphase] using hstart
      exact .adopt hphase
    · simp [start, hphase] at hstart
  · by_cases hflags : flags = Flags.resume ∨ flags = Flags.join
    · by_cases hxid : b.xid = some x
      · obtain rfl := by
          simpa [start, hnone, hflags, check_of_eq hxid, bind, Except.bind, pure,
            Except.pure] using hstart
        exact .rejoin hflags hxid
      · simp [start, hnone, hflags, check_of_ne hxid, bind, Except.bind] at hstart
    · simp [start, hnone, hflags] at hstart

theorem accepts_of_finish (hfinish : b.finish x flags = .ok moved) :
    b.Accepts wroteNothing (.finish x flags) moved := by
  by_cases hxid : b.xid = some x
  · simp only [finish, check_of_eq hxid, bind, Except.bind] at hfinish
    split at hfinish
    · next hflags =>
      obtain rfl := Except.ok.inj hfinish
      exact hflags ▸ .succeed hxid
    · split at hfinish
      · next hflags =>
        obtain rfl := Except.ok.inj hfinish
        exact hflags ▸ .fail hxid
      · split at hfinish
        · next hflags =>
          obtain rfl := Except.ok.inj hfinish
          exact hflags ▸ .suspend hxid
        · contradiction
  · rw [finish_of_ne flags hxid] at hfinish
    contradiction

theorem accepts_of_prepare {vote : Vote} (hprepare : b.prepare x wroteNothing = .ok (vote, moved)) :
    b.Accepts wroteNothing (.prepare x) moved := by
  by_cases hxid : b.xid = some x
  · obtain ⟨xid, success, phase⟩ := b
    cases success with
    | false => simp [prepare, checkSuccess_of_eq hxid, bind, Except.bind] at hprepare
    | true =>
      cases wroteNothing with
      | true =>
        obtain ⟨rfl, rfl⟩ := by
          simpa [prepare, checkSuccess_of_eq hxid, bind, Except.bind, pure,
            Except.pure] using hprepare
        exact .voteReadOnly hxid rfl rfl
      | false =>
        obtain ⟨rfl, rfl⟩ := by
          simpa [prepare, checkSuccess_of_eq hxid, bind, Except.bind, pure,
            Except.pure] using hprepare
        exact .voteOk hxid rfl rfl
  · rw [prepare_of_ne wroteNothing hxid] at hprepare
    contradiction

/-- A decision for a command is what the branch accepts. -/
theorem accepts_of_decision {command : Command} {vote : Option Vote}
    (hdecision : command.decision b wroteNothing = .ok (vote, moved)) :
    b.Accepts wroteNothing command moved := by
  cases command with
  | start x flags =>
    cases hstart : b.start x flags with
    | error f => simp [Command.decision, hstart, Except.map] at hdecision
    | ok started =>
      obtain ⟨rfl, rfl⟩ := by simpa [Command.decision, hstart, Except.map] using hdecision
      exact accepts_of_start hstart
  | finish x flags =>
    cases hfinish : b.finish x flags with
    | error f => simp [Command.decision, hfinish, Except.map] at hdecision
    | ok finished =>
      obtain ⟨rfl, rfl⟩ := by simpa [Command.decision, hfinish, Except.map] using hdecision
      exact accepts_of_finish hfinish
  | prepare x =>
    cases hprepare : b.prepare x wroteNothing with
    | error f => simp [Command.decision, hprepare, Except.map] at hdecision
    | ok prepared =>
      obtain ⟨rfl, rfl⟩ := by simpa [Command.decision, hprepare, Except.map] using hdecision
      exact accepts_of_prepare hprepare
  | commit x onePhase =>
    by_cases hallowed : b.xid = some x ∧ b.success = true
    · rw [Command.decision, checkSuccess_eq_ok_iff.mpr hallowed] at hdecision
      obtain ⟨rfl, rfl⟩ := Prod.mk.inj (Except.ok.inj hdecision)
      exact .commit hallowed.1 hallowed.2
    · cases hcheck : b.checkSuccess x with
      | ok _ => exact absurd (checkSuccess_eq_ok_iff.mp hcheck) hallowed
      | error f => simp [Command.decision, hcheck, Except.map] at hdecision
  | rollback x =>
    by_cases hxid : b.xid = some x
    · rw [Command.decision, check_of_eq hxid] at hdecision
      obtain ⟨rfl, rfl⟩ := Prod.mk.inj (Except.ok.inj hdecision)
      exact .rollback hxid
    · simp [Command.decision, check_of_ne hxid, Except.map] at hdecision

end

/-- A command that does not fit the branch is refused, whatever was written. -/
theorem decision_of_refuses {b : Branch} {command : Command} {f : BranchFault}
    (hrefuses : b.Refuses command f) (wroteNothing : Bool) :
    command.decision b wroteNothing = .error f := by
  cases hrefuses with
  | startAgain hphase => simp [Command.decision, start, hphase, Except.map]
  | @startOther x flags hflags hxid =>
    have hnone : flags ≠ Flags.none := by rcases hflags with rfl | rfl <;> decide
    simp [Command.decision, start, hnone, hflags, check_of_ne hxid, Except.map, bind, Except.bind]
  | startUnsupported hnone hresume hjoin =>
    simp [Command.decision, start, hnone, hresume, hjoin, Except.map]
  | finishOther hxid => simp [Command.decision, finish_of_ne _ hxid, Except.map]
  | finishUnsupported hxid hsuccess hfail hsuspend =>
    simp [Command.decision, finish, check_of_eq hxid, hsuccess, hfail, hsuspend, Except.map, bind,
      Except.bind, throw, throwThe, MonadExceptOf.throw]
  | prepareOther hxid => simp [Command.decision, prepare_of_ne _ hxid, Except.map]
  | commitOther hxid => simp [Command.decision, checkSuccess_of_ne hxid, Except.map]
  | rollbackOther hxid => simp [Command.decision, check_of_ne hxid, Except.map]

end Branch

/-- Whether a client could be committed, and what becomes of the stores. -/
def Strategy.onStores {S : Type} [Backend S] (strategy : Strategy) (s : S) (client : ClientId)
    (journalSize : Nat) : Except Fault Unit × S :=
  match Backend.act s client .commit with
  | ⟨.error f, t, _⟩ => (.error f, t)
  | ⟨.ok _, t, _⟩ =>
    match strategy with
    | .plain => (.ok (), t)
    | .flushing =>
      if 0 < journalSize then
        ((Backend.act t client .flush).result.mapError Strategy.asFlushFault,
          (Backend.act t client .flush).state)
      else (.ok (), t)

namespace Participant

section

variable {S : Type} [Backend S]

/-- What a participant does about a command, with its answer, itself and the stores afterwards. -/
inductive Obeys (p : Participant) (s : S) : Command → Except BranchFault (Option Vote) →
    Participant → S → Prop
  | refused {command : Command} {f : BranchFault}
      (hdecision : command.decision p.branch p.journal.isEmpty = .error f) :
      Obeys p s command (.error f) p s
  | moved {command : Command} {vote : Option Vote} {b : Branch} (hlocal : command.isLocal = true)
      (hdecision : command.decision p.branch p.journal.isEmpty = .ok (vote, b)) :
      Obeys p s command (.ok vote) { p with branch := b } s
  | notCommitted {x : Xid} {onePhase : Bool} {f : Fault}
      (hallowed : p.branch.checkSuccess x = .ok ())
      (hfault : (p.strategy.onStores s p.client p.journal.size).1 = .error f) :
      Obeys p s (.commit x onePhase) (.error (.resource x.text f)) p
        (p.strategy.onStores s p.client p.journal.size).2
  | committed {x : Xid} {onePhase : Bool} (hallowed : p.branch.checkSuccess x = .ok ())
      (hdone : (p.strategy.onStores s p.client p.journal.size).1 = .ok ()) :
      Obeys p s (.commit x onePhase) (.ok none) { p with branch := p.branch.committed }
        (p.strategy.onStores s p.client p.journal.size).2
  /-- A committed branch that wrote something is followed by a list of the transformations. -/
  | committedListing {x : Xid} {onePhase : Bool} (hallowed : p.branch.checkSuccess x = .ok ())
      (hdone : (p.strategy.onStores s p.client p.journal.size).1 = .ok ())
      (hwrote : 0 < p.journal.size) :
      Obeys p s (.commit x onePhase) (.ok none) { p with branch := p.branch.committed }
        (Backend.select (p.strategy.onStores s p.client p.journal.size).2 p.client
          Queries.allTransformations).state
  | rolledBack {x : Xid} (hallowed : p.branch.check x = .ok ()) :
      Obeys p s (.rollback x) (.ok none) { p with branch := p.branch.rolledBack }
        (Backend.act s p.client .rollback).state

variable {p q : Participant} {s t : S} {command : Command}
  {answer : Except BranchFault (Option Vote)}

/-- A participant keeps its client, its strategy and its journal, whatever it is told. -/
theorem Obeys.keeps (hobeys : p.Obeys s command answer q t) :
    q.client = p.client ∧ q.strategy = p.strategy ∧ q.journal = p.journal := by
  cases hobeys <;> exact ⟨rfl, rfl, rfl⟩

theorem decision_commit {b : Branch} {x : Xid} {onePhase wroteNothing : Bool}
    (hallowed : b.checkSuccess x = .ok ()) :
    (Command.commit x onePhase).decision b wroteNothing = .ok (none, b.committed) := by
  simp [Command.decision, hallowed, Except.map]

theorem decision_rollback {b : Branch} {x : Xid} {wroteNothing : Bool}
    (hallowed : b.check x = .ok ()) :
    (Command.rollback x).decision b wroteNothing = .ok (none, b.rolledBack) := by
  simp [Command.decision, hallowed, Except.map]

/-- A command that is answered without a fault was accepted. -/
theorem Obeys.accepts {vote : Option Vote} (hobeys : p.Obeys s command (.ok vote) q t) :
    p.branch.Accepts p.journal.isEmpty command q.branch := by
  generalize hanswer : (Except.ok vote : Except BranchFault (Option Vote)) = answer at hobeys
  cases hobeys with
  | refused hdecision => contradiction
  | notCommitted hallowed hfault => contradiction
  | moved hlocal hdecision => exact Branch.accepts_of_decision hdecision
  | committed hallowed hdone => exact Branch.accepts_of_decision (decision_commit hallowed)
  | committedListing hallowed hdone hwrote =>
    exact Branch.accepts_of_decision (decision_commit hallowed)
  | rolledBack hallowed => exact Branch.accepts_of_decision (decision_rollback hallowed)

/-- A branch stays as it is, or the command is accepted and moves it on. -/
theorem Obeys.branch (hobeys : p.Obeys s command answer q t) :
    q.branch = p.branch ∨
    (∃ vote, answer = .ok vote) ∧ p.branch.Accepts p.journal.isEmpty command q.branch := by
  cases answer with
  | ok vote => exact Or.inr ⟨⟨vote, rfl⟩, hobeys.accepts⟩
  | error f =>
    left
    generalize hanswer : (Except.error f : Except BranchFault (Option Vote)) = answer at hobeys
    cases hobeys <;> first | rfl | contradiction

/-- A command that the branch decides against changes nothing. -/
theorem Obeys.of_error {f : BranchFault}
    (hdecision : command.decision p.branch p.journal.isEmpty = .error f)
    (hobeys : p.Obeys s command answer q t) : answer = .error f ∧ q = p ∧ t = s := by
  -- what the branch decides against is no commit that it allows
  have hnot : ∀ x onePhase, p.branch.checkSuccess x = .ok () →
      command ≠ .commit x onePhase := by
    rintro x onePhase hallowed rfl
    rw [decision_commit hallowed] at hdecision
    contradiction
  cases hobeys with
  | refused hrefused =>
    rw [hdecision] at hrefused
    obtain rfl := Except.error.inj hrefused
    exact ⟨rfl, rfl, rfl⟩
  | moved hlocal hmoved =>
    rw [hdecision] at hmoved
    contradiction
  | notCommitted hallowed hfault => exact absurd rfl (hnot _ _ hallowed)
  | committed hallowed hdone => exact absurd rfl (hnot _ _ hallowed)
  | committedListing hallowed hdone hwrote => exact absurd rfl (hnot _ _ hallowed)
  | rolledBack hallowed =>
    rw [decision_rollback hallowed] at hdecision
    contradiction

/-- A command that does not reach the stores is answered by what the branch decides. -/
theorem Obeys.answer_of_isLocal (hlocal : command.isLocal = true)
    (hobeys : p.Obeys s command answer q t) :
    answer = (command.decision p.branch p.journal.isEmpty).map Prod.fst := by
  cases hobeys with
  | refused hdecision =>
    rw [hdecision]
    rfl
  | moved _ hdecision =>
    rw [hdecision]
    rfl
  | _ => contradiction

end

section

variable {S α : Type}

@[simp] theorem note_apply (level : Level) (message target : String) (e : Enlisted S) :
    note level message target e =
      (.ok (), { e with outside := e.outside.note level target message }) := rfl

@[simp] theorem decide_apply (decision : Branch → Except BranchFault α) (e : Enlisted S) :
    decide decision e = (decision e.participant.branch, e) := rfl

@[simp] theorem job_apply (j : Job S α) (e : Enlisted S) :
    job j e = (.ok (j e.outside).1, { e with outside := (j e.outside).2 }) := rfl

theorem move_apply (decision : Branch → Except BranchFault Branch) (e : Enlisted S) :
    move decision e = match decision e.participant.branch with
      | .ok branch => (.ok (), { e with participant := { e.participant with branch } })
      | .error f => (.error f, e) := by
  rw [move, Effect.bind_apply, decide_apply]
  cases decision e.participant.branch <;> rfl

/-! ## Notes -/

/-- A call that does nothing but add records to the log. -/
def OnlyNotes (c : Call S Unit) : Prop :=
  ∀ e, ∃ log, c e = (.ok (), { e with outside := { e.outside with log } })

theorem onlyNotes_pure : OnlyNotes (pure () : Call S Unit) := fun e => ⟨e.outside.log, rfl⟩

theorem onlyNotes_note (level : Level) (message target : String) :
    OnlyNotes (note level message target : Call S Unit) :=
  fun e => ⟨e.outside.log.add ⟨level, target, message⟩, rfl⟩

theorem OnlyNotes.bind {first : Call S Unit} {next : Unit → Call S Unit}
    (hfirst : OnlyNotes first) (hnext : OnlyNotes (next ())) : OnlyNotes (first >>= next) := by
  intro e
  obtain ⟨log, hlog⟩ := hfirst e
  rw [Effect.bind_apply, hlog]
  exact hnext _

theorem onlyNotes_forM {β : Type} (l : List β) {f : β → Call S Unit} (hf : ∀ b, OnlyNotes (f b)) :
    OnlyNotes (l.forM f) := by
  induction l with
  | nil => exact onlyNotes_pure
  | cons b rest ih => exact (hf b).bind ih

end

/-! ## What each call does -/

section

variable {S : Type} [Backend S] {p q : Participant} {s t : S}

/-- A commit does to the stores what its strategy does, and to the log no more than adding to it. -/
theorem strategy_commit_apply (strategy : Strategy) (k : ClientId) (n : Nat) (o : Outside S) :
    ∃ log, log.threshold = o.log.threshold ∧ strategy.commit k n o =
      ((strategy.onStores o.stores k n).1, ⟨(strategy.onStores o.stores k n).2, log⟩) := by
  unfold Strategy.commit Strategy.onStores
  rw [Effect.bind_apply, ClientId.act_apply]
  rcases Backend.act o.stores k .commit with ⟨f | _, t, records⟩
  · exact ⟨_, Log.threshold_addAll _ _, rfl⟩
  · cases strategy with
    | plain => exact ⟨_, Log.threshold_addAll _ _, rfl⟩
    | flushing =>
      by_cases hn : 0 < n
      · simp only [if_pos hn, Effect.bind_apply, Job.note_apply, Job.relabel_apply,
          ClientId.act_apply, Outside.stores_note]
        exact ⟨_, by simp [Outside.note], rfl⟩
      · simp only [if_neg hn]
        exact ⟨_, Log.threshold_addAll _ _, rfl⟩

/-- Listing the transformations asks one query if details are logged, and never fails. -/
theorem dumpTransformations_apply (e : Enlisted S) :
    ∃ o, dumpTransformations e = (.ok (), { e with outside := o }) ∧
      o.stores = if e.outside.log.keeps .debug then
        (Backend.select e.outside.stores e.participant.client Queries.allTransformations).state
      else e.outside.stores := by
  rw [dumpTransformations, Effect.bind_apply, Effect.get_apply]
  by_cases hkeeps : e.outside.log.keeps .debug = true
  · simp only [if_pos hkeeps, Effect.bind_apply, job_apply]
    generalize hasked : e.participant.client.select Queries.allTransformations e.outside = asked
    have hstores : asked.2.stores = (Backend.select e.outside.stores e.participant.client
        Queries.allTransformations).state := hasked ▸ rfl
    -- what is done with the rows goes to the log alone
    obtain ⟨f | rows, o⟩ := asked
    · obtain ⟨log, hlog⟩ := onlyNotes_note .warning
        ("cannot list transformations after commit: " ++ f.message) Record.participant
        { e with outside := o }
      exact ⟨_, hlog, hstores⟩
    · have hnotes : OnlyNotes (S := S) (do
          note .debug ("repository holds " ++ toString rows.length ++ " transformations")
          rows.forM fun row => note .debug ("  " ++ row.text)) :=
        (onlyNotes_note _ _ _).bind (onlyNotes_forM rows fun row => onlyNotes_note _ _ _)
      obtain ⟨log, hlog⟩ := hnotes { e with outside := o }
      exact ⟨_, hlog, hstores⟩
  · simp only [if_neg hkeeps]
    exact ⟨e.outside, rfl, rfl⟩

/-- The answer, the participant and the stores after a command. -/
def AnswersTo (p : Participant) (s : S) (command : Command)
    (outcome : Except BranchFault (Option Vote) × Enlisted S) : Prop :=
  Obeys p s command outcome.1 outcome.2.participant outcome.2.outside.stores

/-- A commit that is allowed is carried out, and the branch moves on if the store agrees. -/
theorem complete_answers (x : Xid) (onePhase : Bool) (e : Enlisted S)
    (hallowed : e.participant.branch.checkSuccess x = .ok ()) :
    AnswersTo e.participant e.outside.stores (.commit x onePhase)
      ((complete x >>= fun _ => pure none) e) := by
  obtain ⟨log, -, hcommit⟩ := strategy_commit_apply e.participant.strategy e.participant.client
    e.participant.journal.size e.outside
  simp only [complete, Effect.bind_apply, Effect.get_apply, job_apply, hcommit]
  cases hdone : (e.participant.strategy.onStores e.outside.stores e.participant.client
      e.participant.journal.size).1 with
  | error f => exact Obeys.notCommitted hallowed hdone
  | ok _ =>
    simp only [Effect.bind_apply, move_apply]
    -- only after a branch that has written something are the transformations listed
    by_cases hwrote : 0 < e.participant.journal.size
    · obtain ⟨o, hdump, hstores⟩ := dumpTransformations_apply
        { participant := { e.participant with branch := e.participant.branch.committed }
          outside := (⟨(e.participant.strategy.onStores e.outside.stores e.participant.client
            e.participant.journal.size).2, log⟩ : Outside S) }
      simp only [if_pos hwrote, hdump]
      change Obeys _ _ _ _ _ o.stores
      rw [hstores]
      split
      · exact Obeys.committedListing hallowed hdone hwrote
      · exact Obeys.committed hallowed hdone
    · simp only [if_neg hwrote]
      exact Obeys.committed hallowed hdone

/-- Every command is obeyed, whatever the log keeps. -/
theorem call_obeys (command : Command) (e : Enlisted S) :
    AnswersTo e.participant e.outside.stores command (command.call e) := by
  cases command with
  | start x flags =>
    simp only [Command.call, start, Effect.bind_apply, note_apply, move_apply]
    cases hstart : e.participant.branch.start x flags with
    | error f => exact Obeys.refused (by simp [Command.decision, hstart, Except.map])
    | ok b => exact Obeys.moved rfl (by simp [Command.decision, hstart, Except.map])
  | finish x flags =>
    simp only [Command.call, finish, Effect.bind_apply, note_apply, move_apply]
    cases hfinish : e.participant.branch.finish x flags with
    | error f => exact Obeys.refused (by simp [Command.decision, hfinish, Except.map])
    | ok b => exact Obeys.moved rfl (by simp [Command.decision, hfinish, Except.map])
  | prepare x =>
    simp only [Command.call, prepare, Effect.map_apply, Effect.bind_apply, note_apply,
      Effect.get_apply, decide_apply, move_apply]
    cases hprepare : e.participant.branch.prepare x e.participant.journal.isEmpty with
    | error f => exact Obeys.refused (by simp [Command.decision, hprepare, Except.map])
    | ok voted => exact Obeys.moved rfl (by simp [Command.decision, hprepare, Except.map])
  | commit x onePhase =>
    cases hallowed : e.participant.branch.checkSuccess x with
    | error f =>
      simp only [Command.call, commit, Effect.bind_apply, note_apply, decide_apply, hallowed]
      exact Obeys.refused (by simp [Command.decision, hallowed, Except.map])
    | ok _ =>
      simp only [Command.call, commit, Effect.bind_apply, note_apply, decide_apply, hallowed]
      -- the note before the commit leaves the stores as they are
      rw [← Effect.bind_apply]
      generalize hnoted : e.outside.note _ _ _ = noted
      have hstores : noted.stores = e.outside.stores := hnoted ▸ rfl
      rw [← hstores]
      exact complete_answers x onePhase ⟨e.participant, noted⟩ hallowed
  | rollback x =>
    simp only [Command.call, rollback, Effect.bind_apply, note_apply, Effect.get_apply,
      decide_apply, job_apply]
    cases hallowed : e.participant.branch.check x with
    | error f => exact Obeys.refused (by simp [Command.decision, hallowed, Except.map])
    | ok _ =>
      simp only [ClientId.act_apply, Outside.stores_note]
      -- a client that cannot be rolled back is noted, and the branch moves on all the same
      cases (Backend.act e.outside.stores e.participant.client .rollback).result with
      | error f =>
        simp only [Effect.bind_apply, note_apply, move_apply]
        exact Obeys.rolledBack hallowed
      | ok _ =>
        simp only [move_apply]
        exact Obeys.rolledBack hallowed

end

end Participant

end GraphCommit
