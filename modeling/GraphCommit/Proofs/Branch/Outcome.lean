import GraphCommit.Proofs.Recorded
import GraphCommit.Proofs.Schedule
import GraphCommit.Query.Engine
import GraphCommit.Store.Opening

/-!
# The outcome of a branch

A branch that was committed or rolled back should have come to its end.  The participant does not
remember it: `start` with a flag, `end`, and often `prepare`, `commit` and `rollback` look at the
identifier and at the success flag alone, and the flag survives a rollback.  `Branch.Reopens` lists
the commands that move such a branch again; without them an outcome is final until the connection is
cleaned, and each of them, once accepted, undoes it.

In particular a branch that was rolled back can be committed: its writes were discarded, the client
commits nothing, and the coordinator is told that all went well (`outcome_not_final`).
-/

namespace GraphCommit

namespace Branch

/-- A branch that was committed or rolled back. -/
def IsOutcome (b : Branch) : Prop := b.phase = .committed ∨ b.phase = .rolledBack

/-- The commands that move a branch that has come to its outcome, if they are accepted. -/
inductive Reopens (b : Branch) (wroteNothing : Bool) : Command → Prop
  | startAgain {x : Xid} {flags : Flags} (hxid : b.xid = some x)
      (hflags : flags = Flags.resume ∨ flags = Flags.join) : Reopens b wroteNothing (.start x flags)
  | endAgain {x : Xid} {flags : Flags} (hxid : b.xid = some x)
      (hflags : flags = Flags.success ∨ flags = Flags.fail ∨ flags = Flags.suspend) :
      Reopens b wroteNothing (.finish x flags)
  | voteAgain {x : Xid} (hxid : b.xid = some x) (hsuccess : b.success = true)
      (hmoves : wroteNothing = false ∨ b.phase = .rolledBack) : Reopens b wroteNothing (.prepare x)
  /-- What was rolled back is reported to be committed. -/
  | commitRolledBack {x : Xid} {onePhase : Bool} (hxid : b.xid = some x)
      (hsuccess : b.success = true) (hphase : b.phase = .rolledBack) :
      Reopens b wroteNothing (.commit x onePhase)
  /-- What was committed is reported to be rolled back. -/
  | rollbackCommitted {x : Xid} (hxid : b.xid = some x) (hphase : b.phase = .committed) :
      Reopens b wroteNothing (.rollback x)

variable {b moved : Branch} {wroteNothing : Bool} {command : Command}

/-- An accepted command moves an outcome if and only if it is one of these. -/
theorem Accepts.reopens_iff (hb : b.IsOutcome) (haccepts : b.Accepts wroteNothing command moved) :
    moved.phase ≠ b.phase ↔ b.Reopens wroteNothing command := by
  -- an outcome differs from all phases that are none
  have hnot : ∀ phase, phase ≠ .committed → phase ≠ .rolledBack → phase ≠ b.phase := by
    rintro phase hcommitted hrolledBack rfl
    exact hb.elim hcommitted hrolledBack
  cases haccepts with
  | adopt hphase =>
    rcases hb with h | h <;> rw [hphase] at h <;> contradiction
  | rejoin hflags hxid =>
    exact ⟨fun _ => .startAgain hxid hflags, fun _ => hnot _ (by simp) (by simp)⟩
  | succeed hxid =>
    exact ⟨fun _ => .endAgain hxid (Or.inl rfl), fun _ => hnot _ (by simp) (by simp)⟩
  | fail hxid =>
    exact ⟨fun _ => .endAgain hxid (Or.inr (Or.inl rfl)), fun _ => hnot _ (by simp) (by simp)⟩
  | suspend hxid =>
    exact ⟨fun _ => .endAgain hxid (Or.inr (Or.inr rfl)), fun _ => hnot _ (by simp) (by simp)⟩
  | voteReadOnly hxid hsuccess hwrote =>
    constructor
    · intro hne
      exact .voteAgain hxid hsuccess (Or.inr (hb.resolve_left fun h => hne h.symm))
    · rintro (_ | _ | ⟨-, -, hmoves⟩)
      rcases hmoves with hwrote' | hphase
      · rw [hwrote] at hwrote'
        contradiction
      · simp [hphase]
  | voteOk hxid hsuccess hwrote =>
    exact ⟨fun _ => .voteAgain hxid hsuccess (Or.inl hwrote), fun _ => hnot _ (by simp) (by simp)⟩
  | commit hxid hsuccess =>
    constructor
    · intro hne
      exact .commitRolledBack hxid hsuccess (hb.resolve_left fun h => hne h.symm)
    · rintro (_ | _ | _ | ⟨-, -, hphase⟩)
      simp [committed, hphase]
  | rollback hxid =>
    constructor
    · intro hne
      exact .rollbackCommitted hxid (hb.resolve_right fun h => hne h.symm)
    · rintro (_ | _ | _ | _ | ⟨-, hphase⟩)
      simp [rolledBack, hphase]

end Branch

/-- A strategy asks the client to commit before it does anything else. -/
theorem Strategy.history_onStores {S : Type} [Backend S] (strategy : Strategy) (r : Recorded S)
    (k : ClientId) (n : Nat) :
    ∃ answered rest, (strategy.onStores r k n).2.history =
      r.history ++ ⟨r.stores, .act k .commit, answered⟩ :: rest := by
  have hcommit : (Backend.act r k .commit).state.history =
      r.history ++ [⟨r.stores, .act k .commit, (Backend.act r k .commit).result.isOk⟩] := rfl
  unfold Strategy.onStores
  rcases hanswer : Backend.act r k .commit with ⟨f | _, t, records⟩ <;> rw [hanswer] at hcommit
  · exact ⟨_, [], hcommit⟩
  · cases strategy with
    | plain => exact ⟨_, [], hcommit⟩
    | flushing =>
      by_cases hn : 0 < n
      · have hflush := Recorded.history_after t (.act k .flush)
        rw [hcommit, List.append_assoc] at hflush
        simp only [if_pos hn]
        exact ⟨true, _, hflush⟩
      · simp only [if_neg hn]
        exact ⟨_, [], hcommit⟩

namespace Participant

variable {S : Type} [Backend S] {p q : Participant} {r t : Recorded S} {x : Xid} {onePhase : Bool}
  {answer : Except BranchFault (Option Vote)}

/-- A commit that is allowed reaches the client. -/
theorem Obeys.history_of_allowed (hobeys : p.Obeys r (.commit x onePhase) answer q t)
    (hallowed : p.branch.checkSuccess x = .ok ()) :
    ∃ answered rest, t.history =
      r.history ++ ⟨r.stores, .act p.client .commit, answered⟩ :: rest := by
  have hcommit := p.strategy.history_onStores r p.client p.journal.size
  cases hobeys with
  | refused hdecision =>
    rw [decision_commit hallowed] at hdecision
    contradiction
  | moved hlocal hdecision => contradiction
  | notCommitted hallowed' hfault => exact hcommit
  | committed hallowed' hdone => exact hcommit
  | committedListing hallowed' hdone hwrote =>
    obtain ⟨answered, rest, hcommit⟩ := hcommit
    generalize (p.strategy.onStores r p.client p.journal.size).2 = u at hcommit
    have hselect := Recorded.history_after u (.select p.client Queries.allTransformations)
    rw [hcommit, List.append_assoc, List.cons_append] at hselect
    exact ⟨answered, _, hselect⟩

/-- A commit that is not allowed does not. -/
theorem Obeys.stores_of_not_allowed (hobeys : p.Obeys r (.commit x onePhase) answer q t)
    (hallowed : p.branch.checkSuccess x ≠ .ok ()) : t = r := by
  cases hobeys with
  | refused hdecision => rfl
  | moved hlocal hdecision => contradiction
  | notCommitted hallowed' hfault => exact absurd hallowed' hallowed
  | committed hallowed' hdone => exact absurd hallowed' hallowed
  | committedListing hallowed' hdone hwrote => exact absurd hallowed' hallowed

end Participant

namespace Schedule

variable {S : Type} {s s' : Schedule S} {m : Move} {i : Nat}

theorem lt_size_of_isOutcome (hs : (s.branch i).IsOutcome) : i < s.size := by
  by_contra hi
  rw [branch_of_ge (Nat.le_of_not_lt hi)] at hs
  rcases hs with h | h <;> contradiction

variable [Backend S]

/-- Whether a move is an accepted command that reopens the branch of a connection. -/
def IsReopened (s : Schedule S) (i : Nat) (m : Move) : Prop :=
  ∃ command vote, m = .coordinate i command ∧
    (s.branch i).Reopens (s.journal i).isEmpty command ∧ s.answer i command = .ok vote

/-- Until its connection is cleaned, an outcome is undone by the commands that reopen it and by
nothing else. -/
theorem Step.outcome_iff (hstep : Step s m s') (hs : (s.branch i).IsOutcome)
    (hcleans : ¬ s.Cleans i m) :
    (s'.branch i).phase ≠ (s.branch i).phase ↔ s.IsReopened i m := by
  have hi := lt_size_of_isOutcome hs
  constructor
  · intro hmoved
    rcases hstep.participant_cases hi with
      ⟨-, hsame⟩ | ⟨w, -, -, -, happend⟩ | ⟨command, t, rfl, hobeys, -⟩ | ⟨hcleaned, -⟩
    · exact absurd (by rw [branch, hsame]) hmoved
    · exact absurd (by rw [branch, happend]; rfl) hmoved
    · rcases hobeys.branch with hsame | ⟨⟨vote, hanswer⟩, haccepts⟩
      · exact absurd (by rw [branch, hsame]) hmoved
      · exact ⟨command, vote, rfl, (haccepts.reopens_iff hs).mp hmoved, hanswer⟩
    · exact absurd hcleaned hcleans
  · rintro ⟨command, vote, rfl, hreopens, hanswer⟩
    cases hstep with
    | coordinate _ _ =>
      have hobeys := order_obeys command hi
      rw [hanswer] at hobeys
      exact (hobeys.accepts.reopens_iff hs).mpr hreopens

/-- An outcome is final as long as nothing reopens it. -/
theorem Leads.outcome {t : Schedule S}
    (hrun : Leads (fun u m => ¬ u.Cleans i m ∧ ¬ u.IsReopened i m) s t)
    (hs : (s.branch i).IsOutcome) : (t.branch i).phase = (s.branch i).phase := by
  induction hrun with
  | refl => rfl
  | @tail t u m hrun hallowed hstep ih =>
    have ht : (t.branch i).IsOutcome := by
      rw [Branch.IsOutcome, ih]
      exact hs
    -- a step that undoes the outcome would be one that reopens the branch
    by_contra hmoved
    rw [← ih] at hmoved
    exact hallowed.2 ((hstep.outcome_iff ht hallowed.1).mp hmoved)

/-! ## What the client is asked -/

/-- Whether the client of a connection was asked to commit between two schedules. -/
def AsksCommit (s s' : Schedule (Recorded S)) (i : Nat) : Prop :=
  ∃ asked, s'.core.stores.history = s.core.stores.history ++ asked ∧
    ∃ e ∈ asked, e.question = .act (s.connection i).client .commit

/-- The client is asked to commit if the identifier and the success flag allow it, whatever has
become of the branch. -/
theorem asksCommit_iff {s : Schedule (Recorded S)} (hi : i < s.size) (x : Xid) (onePhase : Bool) :
    s.AsksCommit (s.order i (.commit x onePhase)) i ↔
      (s.branch i).xid = some x ∧ (s.branch i).success = true := by
  rw [← Branch.checkSuccess_eq_ok_iff]
  have hobeys := order_obeys (s := s) (.commit x onePhase) hi
  constructor
  · rintro ⟨asked, hhistory, e, he, -⟩
    by_contra hallowed
    rw [hobeys.stores_of_not_allowed hallowed, List.self_eq_append_right] at hhistory
    rw [hhistory] at he
    contradiction
  · intro hallowed
    obtain ⟨answered, rest, hasked⟩ := hobeys.history_of_allowed hallowed
    exact ⟨_, hasked, _, List.mem_cons_self, rfl⟩

/-! ## The whole statement -/

/-- What has become of an outcome: it is still there, only the commands that reopen it undo it, and
a commit reaches the client whenever identifier and success flag allow it. -/
structure KeepsOutcome (s t : Schedule (Recorded S)) (i : Nat) : Prop where
  phase : (t.branch i).phase = (s.branch i).phase
  reopened : ∀ m t', Step t m t' → ¬ t.Cleans i m →
    ((t'.branch i).phase ≠ (t.branch i).phase ↔ t.IsReopened i m)
  commits : ∀ x onePhase, t.AsksCommit (t.order i (.commit x onePhase)) i ↔
    (t.branch i).xid = some x ∧ (t.branch i).success = true

/-- An outcome is final exactly until it is reopened. -/
theorem outcome_final_until_reopened {s t : Schedule (Recorded S)} (hs : (s.branch i).IsOutcome)
    (hrun : Leads (fun u m => ¬ u.Cleans i m ∧ ¬ u.IsReopened i m) s t) : s.KeepsOutcome t i := by
  have hphase := hrun.outcome hs
  have ht : (t.branch i).IsOutcome := by
    rw [Branch.IsOutcome, hphase]
    exact hs
  refine ⟨hphase, fun m t' hstep hcleans => hstep.outcome_iff ht hcleans, fun x onePhase => ?_⟩
  exact asksCommit_iff (lt_size_of_isOutcome ht) x onePhase

def sampleXid : Xid := ⟨1, [1], [1]⟩

/-- A branch writes, is marked for a commit and is rolled back. -/
def rollingBack : List Move :=
  [.connect, .coordinate 0 (.start sampleXid Flags.none),
    .beginAccess 0 (.write (.addTriple ⟨"urn:s", "urn:p", "urn:o"⟩ "urn:g")), .carryOut 0,
    .coordinate 0 (.finish sampleXid Flags.success), .coordinate 0 (.rollback sampleXid)]

/-- A new schedule over stores in memory. -/
def sampleStart : Schedule (Recorded Depot) := fresh ⟨Depot.ofSettings {} default, []⟩

section

attribute [local instance] Engine.small

/-- A branch that was rolled back stays so while its connection writes again and the coordinator
rolls back once more. -/
theorem outcome_final_rolledBack :
    ∃ s t : Schedule (Recorded Depot), (s.branch 0).phase = .rolledBack ∧
      (s.journal 0).size = 1 ∧ (t.journal 0).size = 2 ∧ s.KeepsOutcome t 0 := by
  obtain ⟨s, t, u, hs, ht, hu, hphase, hagain, hs', hu'⟩ : ∃ s t u,
      sampleStart.follow rollingBack = some s ∧
      s.follow [.beginAccess 0 (.write (.clear "urn:g")), .carryOut 0] = some t ∧
      t.next (.coordinate 0 (.rollback sampleXid)) = some u ∧
      (s.branch 0).phase = .rolledBack ∧ (t.branch 0).phase = .rolledBack ∧
      (s.journal 0).size = 1 ∧ (u.journal 0).size = 2 :=
    ⟨_, _, _, rfl, rfl, rfl, rfl, rfl, rfl, rfl⟩
  have hwrite : Leads (fun v m => ¬ v.Cleans 0 m ∧ ¬ v.IsReopened 0 m) s t := by
    refine leads_of_follow (fun m hm v => ?_) ht
    simp only [List.mem_cons, List.not_mem_nil, or_false] at hm
    rcases hm with rfl | rfl <;> exact ⟨id, by rintro ⟨command, vote, ⟨⟩, -⟩⟩
  have hrollback : ¬ t.IsReopened 0 (.coordinate 0 (.rollback sampleXid)) := by
    rintro ⟨command, vote, hmove, hreopens, -⟩
    obtain rfl := (Move.coordinate.inj hmove).2
    cases hreopens with
    | rollbackCommitted hxid hcommitted =>
      rw [hagain] at hcommitted
      contradiction
  have hrun := hwrite.tail ⟨id, hrollback⟩ (step_iff.mpr hu)
  exact ⟨s, u, hphase, hs', hu', outcome_final_until_reopened (Or.inr hphase) hrun⟩

/-- A rolled back branch is committed: the client is asked to, the coordinator is told that all went
well, and the phase is another one. -/
theorem outcome_not_final :
    ¬ ∀ (s t : Schedule (Recorded Depot)) (i : Nat), s.Reachable → (s.branch i).IsOutcome →
      Leads (fun u m => ¬ u.Cleans i m) s t → (t.branch i).phase = (s.branch i).phase := by
  intro hfinal
  obtain ⟨s, t, hs, ht, hbefore, hafter⟩ : ∃ s t, sampleStart.follow rollingBack = some s ∧
      s.follow [.coordinate 0 (.commit sampleXid false)] = some t ∧
      (s.branch 0).phase = .rolledBack ∧ (t.branch 0).phase = .committed :=
    ⟨_, _, rfl, rfl, rfl, rfl⟩
  have hreach : s.Reachable :=
    ⟨sampleStart, isNew_fresh _, leads_of_follow (fun _ _ _ => trivial) hs⟩
  have hrun : Leads (fun u m => ¬ u.Cleans 0 m) s t := by
    refine leads_of_follow (fun m hm u => ?_) ht
    rw [List.mem_singleton.mp hm]
    exact id
  have hsame := hfinal s t 0 hreach (Or.inr hbefore) hrun
  rw [hbefore, hafter] at hsame
  contradiction

end

end Schedule

end GraphCommit
