import GraphCommit.Proofs.Branch.CommitPhase
import GraphCommit.Scripted

/-!
# What a failed commit is called

A commit that fails leaves writes behind of which nobody knows whether they have reached the store,
so an operator has to look at them.  The coordinator is told of the failure by a code, which is the
same for all of them, and by a category, which is the one of the fault that the client gave.

A flush that fails is always reported as a failed flush and so always calls for an operator.  A
commit that fails does so only if the client itself speaks of a failed commit or a failed flush, be
it as the reason why it could not complete a branch (`escalates_unless_renamed`).  With any other
fault the coordinator is told something else (`commit_not_escalated`).
-/

namespace GraphCommit

/-! ## Faults that call for an operator -/

/-- A failed commit or a failed flush, or the failure of a branch because of one. -/
inductive Fault.TellsOfCommit : Fault → Prop
  | commit (reason : String) : TellsOfCommit (.commit reason)
  | flush (reason : String) : TellsOfCommit (.flush reason)
  | behind {cause : Fault} (xid : String) (hcause : cause.TellsOfCommit) :
      TellsOfCommit (.branch (.resource xid cause))

mutual

/-- An operator is called for by failed commits and flushes, however deep they are wrapped. -/
theorem Fault.category_eq_operatorIntervention_iff (f : Fault) :
    f.category = .operatorIntervention ↔ f.TellsOfCommit := by
  cases f with
  | commit reason => exact ⟨fun _ => .commit reason, fun _ => rfl⟩
  | flush reason => exact ⟨fun _ => .flush reason, fun _ => rfl⟩
  | branch b => exact b.category_eq_operatorIntervention_iff
  | _ =>
    constructor
    · intro hcategory
      contradiction
    · rintro ⟨⟩

theorem BranchFault.category_eq_operatorIntervention_iff (b : BranchFault) :
    b.category = .operatorIntervention ↔ (Fault.branch b).TellsOfCommit := by
  cases b with
  | resource xid cause =>
    constructor
    · exact fun hcategory =>
        .behind xid (cause.category_eq_operatorIntervention_iff.mp hcategory)
    · rintro ⟨⟩
      exact cause.category_eq_operatorIntervention_iff.mpr ‹_›
  | _ =>
    constructor
    · intro hcategory
      contradiction
    · rintro ⟨⟩

end

namespace Participant

variable {S : Type} [Backend S] {e : Enlisted S} {x : Xid}

/-! ## What the coordinator is told -/

/-- How the outcome of a commit that is allowed calls for an operator. -/
structure Escalates (e : Enlisted S) (x : Xid)
    (outcome : Except BranchFault (Option Vote) × Enlisted S) : Prop where
  /-- The commit fails exactly when a call of the client does. -/
  fails : (∃ b, outcome.1 = .error b) ↔ e.participant.succeeds e.outside.stores = false
  /-- Then the last record says that the writes of the branch must be rolled back. -/
  audited : ∀ b, outcome.1 = .error b → ∃ o : Outside S,
    outcome.2.outside = o.note .error Record.audit (notCommitted x e.participant.journal)
  /-- All failures have one code. -/
  code : ∀ b, outcome.1 = .error b → b.code = -3
  /-- A failed flush calls for an operator, whatever fault the client gives. -/
  flushFails : e.participant.flushes e.outside.stores = true →
    ∀ f, e.participant.flushResult e.outside.stores = .error f →
    ∃ b, outcome.1 = .error b ∧ b.category = .operatorIntervention
  /-- A failed commit is of the category of the fault that the client gives. -/
  commitFails : ∀ f, e.participant.commitResult e.outside.stores = .error f →
    ∃ b, outcome.1 = .error b ∧ b.category = f.category
  /-- So an operator is called for unless the client calls a failed commit something else. -/
  escalated : ∀ b, outcome.1 = .error b → (b.category = .operatorIntervention ↔
    ∀ f, e.participant.commitResult e.outside.stores = .error f → f.TellsOfCommit)

/-- The fault with which a client could not be committed is that of its commit, or a failed
flush. -/
theorem fault_cases {p : Participant} {s : S} {f : Fault}
    (hfault : (p.strategy.onStores s p.client p.journal.size).1 = .error f) :
    p.commitResult s = .error f ∨
      (∃ a, p.commitResult s = .ok a) ∧ ∃ reason, f = .flush reason := by
  rw [onStores_eq] at hfault
  cases hcommit : p.commitResult s with
  | error g =>
    rw [hcommit] at hfault
    exact Or.inl hfault
  | ok a =>
    refine Or.inr ⟨⟨a, rfl⟩, ?_⟩
    rw [hcommit] at hfault
    dsimp only at hfault
    split at hfault
    · cases hflush : p.flushResult s with
      | error g =>
        obtain ⟨reason, hreason, -⟩ := asFlushFault_cases g
        rw [hflush] at hfault
        exact ⟨reason, (Except.error.inj hfault).symm.trans hreason⟩
      | ok _ =>
        rw [hflush] at hfault
        contradiction
    · contradiction

/-- A commit that has failed, with the fault of the client and what is said of it. -/
theorem commit_failed (onePhase : Bool) (hallowed : e.participant.branch.checkSuccess x = .ok ())
    (hfails : e.participant.succeeds e.outside.stores = false) :
    ∃ (f : Fault) (o : Outside S),
      (e.participant.strategy.onStores e.outside.stores e.participant.client
        e.participant.journal.size).1 = .error f ∧
      (Command.commit x onePhase).call e = (.error (.resource x.text f), { e with
        outside := o.note .error Record.audit (notCommitted x e.participant.journal) }) := by
  obtain ⟨o, -, -, -, hcall⟩ := commit_apply onePhase hallowed
  obtain ⟨f, hf⟩ := exists_fault hfails
  rw [hf] at hcall
  exact ⟨f, o, hf, hcall⟩

/-- A commit of a branch that is adopted and marked for commit calls for an operator when it fails,
unless the client gives a fault for its commit that tells of no failed commit. -/
theorem escalates_unless_renamed (onePhase : Bool) (hxid : e.participant.branch.xid = some x)
    (hsuccess : e.participant.branch.success = true) :
    Escalates e x ((Command.commit x onePhase).call e) := by
  have hallowed := Branch.checkSuccess_eq_ok_iff.mpr ⟨hxid, hsuccess⟩
  cases hsucceeds : e.participant.succeeds e.outside.stores with
  | true =>
    have hdone := onStores_eq_ok_iff.mpr hsucceeds
    rcases commit_outcome onePhase hallowed with ⟨-, o, hcall, -⟩ | ⟨hfails, -⟩
    · rw [hcall]
      refine ⟨by simp [hsucceeds], by simp, by simp, fun hflushes f hf => ?_, fun f hf => ?_,
        by simp⟩
      · exact absurd (hdone.symm.trans (onStores_of_flushFails hflushes hf)) (by simp)
      · exact absurd (hdone.symm.trans (onStores_of_commitFails hf)) (by simp)
    · rw [hsucceeds] at hfails
      contradiction
  | false =>
    obtain ⟨f, o, hf, hcall⟩ := commit_failed onePhase hallowed hsucceeds
    have hcategory : (BranchFault.resource x.text f).category = f.category := rfl
    rw [hcall]
    refine ⟨by simp [hsucceeds], fun b _ => ⟨o, rfl⟩, fun b hb => ?_, fun hflushes g hg => ?_,
      fun g hg => ?_, fun b hb => ?_⟩
    · rw [← Except.error.inj hb]
      rfl
    · obtain ⟨reason, hreason, -⟩ := asFlushFault_cases g
      obtain rfl : f = .flush reason := hreason ▸
        Except.error.inj (hf.symm.trans (onStores_of_flushFails hflushes hg))
      exact ⟨_, rfl, rfl⟩
    · obtain rfl : f = g := Except.error.inj (hf.symm.trans (onStores_of_commitFails hg))
      exact ⟨_, rfl, hcategory⟩
    · rw [← Except.error.inj hb, hcategory, Fault.category_eq_operatorIntervention_iff]
      -- the fault of a commit is passed on as it is, that of a flush is put into one form
      rcases fault_cases hf with hcommit | ⟨⟨a, hcommit⟩, reason, rfl⟩
      · simp [hcommit]
      · simp [hcommit, Fault.TellsOfCommit.flush]

/-- A branch that was prepared, on scripted stores where calls of its client fail. -/
def prepared (strategy : Strategy) (failures : List (String × Scripted.Failure)) :
    Enlisted Scripted where
  participant :=
    { client := Scripted.mainClient 0
      strategy
      journal := ⟨[.clear "urn:g"]⟩
      branch := ⟨some ⟨1, [1], [1]⟩, true, .prepared⟩ }
  outside := ⟨{ clients := [(.onCommit, { failures })] }, default⟩

/-- A failed flush that the client calls a lost connection. -/
theorem escalates_unless_renamed_flushing :
    let e := prepared .flushing [("flush", { fault := .connection "lost" })]
    e.participant.branch.xid = some ⟨1, [1], [1]⟩ ∧ e.participant.branch.success = true ∧
    Escalates e ⟨1, [1], [1]⟩ ((Command.commit ⟨1, [1], [1]⟩ false).call e) ∧
    ∃ b, ((Command.commit ⟨1, [1], [1]⟩ false).call e).1 = .error b ∧
      b.category = .operatorIntervention := by
  intro e
  have hescalates : Escalates e ⟨1, [1], [1]⟩ ((Command.commit ⟨1, [1], [1]⟩ false).call e) :=
    escalates_unless_renamed false rfl rfl
  exact ⟨rfl, rfl, hescalates, hescalates.flushFails (by rfl) (.connection "lost") (by rfl)⟩

/-- A failed commit that the client calls a lost connection. -/
theorem commit_not_escalated :
    ¬ ∀ (S : Type) [Backend S] (e : Enlisted S) (x : Xid) (onePhase : Bool),
      e.participant.branch.xid = some x → e.participant.branch.success = true →
      ∀ b, ((Command.commit x onePhase).call e).1 = .error b →
        b.code = -3 ∧ b.category = .operatorIntervention := by
  intro hescalates
  have hcategory := (hescalates Scripted
    (prepared .plain [("commit", { fault := .connection "lost" })]) ⟨1, [1], [1]⟩ false rfl rfl
    (.resource "01_01" (.connection "lost")) (by rfl)).2
  contradiction

end Participant

end GraphCommit
