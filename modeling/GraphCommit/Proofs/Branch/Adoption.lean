import GraphCommit.Proofs.Recorded
import GraphCommit.Proofs.Schedule
import GraphCommit.Query.Engine
import GraphCommit.Store.Opening

/-!
# One branch at a time

A participant that is idle has adopted no branch, and one that has adopted a branch keeps to it
until its connection is cleaned.  So the writes in its journal are the writes of one branch: each of
them was added since the last cleaning, while the branch of now or none at all was adopted.

A command that does not fit the adopted branch is refused before anything happens: neither the
participant nor the lock nor the stores notice it.
-/

namespace GraphCommit

/-- An element of a list with one more at its end is the one at the end or stands before it. -/
theorem concat_eq_append_cons {α : Type} {before after l : List α} {a last : α} :
    l ++ [last] = before ++ a :: after ↔
      (after = [] ∧ l = before ∧ last = a) ∨
      ∃ rest, after = rest ++ [last] ∧ l = before ++ a :: rest := by
  constructor
  · intro hsplit
    rcases List.eq_nil_or_concat after with rfl | ⟨rest, b, rfl⟩
    · obtain ⟨rfl, hlast⟩ := List.append_inj' hsplit rfl
      exact Or.inl ⟨rfl, rfl, by simpa using hlast⟩
    · rw [List.concat_eq_append, ← List.cons_append, ← List.append_assoc] at hsplit
      obtain ⟨rfl, hlast⟩ := List.append_inj' hsplit rfl
      exact Or.inr ⟨rest, by simpa using hlast.symm, rfl⟩
  · rintro (⟨rfl, rfl, rfl⟩ | ⟨rest, rfl, rfl⟩) <;> simp

namespace Branch

/-- Idle means that no branch is adopted, and what is idle is not marked for a commit. -/
structure IsSingle (b : Branch) : Prop where
  idle_iff : b.phase = .idle ↔ b.xid = none
  unmarked : b.phase = .idle → b.success = false

variable {b moved : Branch} {wroteNothing : Bool} {command : Command}

theorem isSingle_idle : IsSingle idle := ⟨by simp [idle], fun _ => rfl⟩

/-- A branch that is not idle is a single one if it is adopted. -/
theorem isSingle_of_adopted {x : Xid} (hxid : b.xid = some x) (hphase : b.phase ≠ .idle) :
    b.IsSingle :=
  ⟨⟨fun h => absurd h hphase, fun h => by simp [hxid] at h⟩, fun h => absurd h hphase⟩

theorem Accepts.isSingle (haccepts : b.Accepts wroteNothing command moved) : moved.IsSingle := by
  cases haccepts with
  | adopt hphase => exact isSingle_of_adopted rfl (by simp)
  | rejoin hflags hxid => exact isSingle_of_adopted hxid (by simp)
  | succeed hxid => exact isSingle_of_adopted hxid (by simp)
  | fail hxid => exact isSingle_of_adopted hxid (by simp)
  | suspend hxid => exact isSingle_of_adopted hxid (by simp)
  | voteReadOnly hxid hsuccess hwrote => exact isSingle_of_adopted hxid (by simp)
  | voteOk hxid hsuccess hwrote => exact isSingle_of_adopted hxid (by simp)
  | commit hxid hsuccess => exact isSingle_of_adopted (b := b.committed) hxid (by simp [committed])
  | rollback hxid => exact isSingle_of_adopted (b := b.rolledBack) hxid (by simp [rolledBack])

/-- A branch is adopted by `start` alone, and only when there is none. -/
theorem Accepts.xid (hb : b.IsSingle) (haccepts : b.Accepts wroteNothing command moved) :
    moved.xid = b.xid ∨
    b.xid = none ∧ ∃ x, command = .start x Flags.none ∧ moved.xid = some x := by
  cases haccepts with
  | @adopt x hphase => exact Or.inr ⟨hb.idle_iff.mp hphase, x, rfl, rfl⟩
  | _ => exact Or.inl rfl

end Branch

namespace Schedule

variable {S : Type} [Backend S] {s s' : Schedule S} {m : Move} {i : Nat}

/-! ## The adopted branch -/

theorem Step.isSingle (hstep : Step s m s') (hs : (s.branch i).IsSingle) :
    (s'.branch i).IsSingle := by
  by_cases hi : i < s.size
  · rcases hstep.participant_cases hi with
      ⟨-, hsame⟩ | ⟨w, -, -, -, happend⟩ | ⟨command, t, -, hobeys, -⟩ | ⟨-, hreset⟩
    · rw [branch, hsame]
      exact hs
    · rw [branch, happend]
      exact hs
    · rcases hobeys.branch with hsame | ⟨-, haccepts⟩
      · rw [branch, hsame]
        exact hs
      · exact haccepts.isSingle
    · rw [branch, hreset]
      exact Branch.isSingle_idle
  · rw [(hstep.participant_of_ge (Nat.le_of_not_lt hi)).1]
    exact Branch.isSingle_idle

theorem Reachable.isSingle (hs : s.Reachable) (i : Nat) : (s.branch i).IsSingle := by
  obtain ⟨s₀, hnew, hrun⟩ := hs
  induction hrun with
  | refl =>
    rw [hnew.branch i]
    exact Branch.isSingle_idle
  | tail hrun hallowed hstep ih => exact hstep.isSingle ih

/-- The adopted branch changes when one is adopted and when the connection is cleaned. -/
theorem Step.xid_cases (hstep : Step s m s') (hs : (s.branch i).IsSingle) :
    (s'.branch i).xid = (s.branch i).xid ∨
    ((s.branch i).xid = none ∧ ∃ x, m = .coordinate i (.start x Flags.none) ∧
      (∃ vote, s.answer i (.start x Flags.none) = .ok vote) ∧ (s'.branch i).xid = some x) ∨
    (s.Cleans i m ∧ (s'.branch i).xid = none) := by
  by_cases hi : i < s.size
  · rcases hstep.participant_cases hi with
      ⟨-, hsame⟩ | ⟨w, -, -, -, happend⟩ | ⟨command, t, rfl, hobeys, -⟩ | ⟨hcleans, hreset⟩
    · exact Or.inl (by rw [branch, hsame])
    · exact Or.inl (by rw [branch, happend]; rfl)
    · rcases hobeys.branch with hsame | ⟨hanswer, haccepts⟩
      · exact Or.inl (by rw [branch, hsame])
      · rcases haccepts.xid hs with hsame | ⟨hnone, x, rfl, hadopted⟩
        · exact Or.inl hsame
        · exact Or.inr (Or.inl ⟨hnone, x, rfl, hanswer, hadopted⟩)
    · exact Or.inr (Or.inr ⟨hcleans, by rw [branch, hreset]; rfl⟩)
  · left
    rw [(hstep.participant_of_ge (Nat.le_of_not_lt hi)).1, branch_of_ge (Nat.le_of_not_lt hi)]

/-! ## The journal -/

/-- How a write came into the journal of a connection: a step added it behind `before`, since then
the connection was not cleaned, and the branch of now or none was adopted at that time. -/
def WasAdded (s : Schedule S) (i : Nat) (before : List Write) (w : Write) : Prop :=
  ∃ t t', t.Reachable ∧ t.tasks i = .ready (.write w) ∧ Step t (.carryOut i) t' ∧
    (t.journal i).writes = before ∧ (t'.journal i).writes = before ++ [w] ∧
    Leads (fun u m => ¬ u.Cleans i m) t' s ∧
    ((t.branch i).xid = none ∨ (t.branch i).xid = (s.branch i).xid)

theorem WasAdded.step {before : List Write} {w : Write} (hadded : s.WasAdded i before w)
    (hs : s.Reachable) (hstep : Step s m s') (hcleans : ¬ s.Cleans i m) :
    s'.WasAdded i before w := by
  obtain ⟨t, t', ht, htask, hwrite, hbefore, hafter, hrun, hxid⟩ := hadded
  refine ⟨t, t', ht, htask, hwrite, hbefore, hafter, hrun.tail hcleans hstep, ?_⟩
  rcases hstep.xid_cases (hs.isSingle i) with hsame | ⟨hnone, -⟩ | ⟨hcleaned, -⟩
  · rw [hsame]
    exact hxid
  · exact Or.inl (hxid.elim id fun heq => heq.trans hnone)
  · exact absurd hcleaned hcleans

theorem Reachable.wasAdded (hs : s.Reachable) (i : Nat) :
    ∀ before w after, (s.journal i).writes = before ++ w :: after → s.WasAdded i before w := by
  obtain ⟨s₀, hnew, hrun⟩ := hs
  induction hrun with
  -- a new schedule has no connections, and so no journals
  | refl =>
    intro before w after hjournal
    rw [hnew.journal i] at hjournal
    exact absurd hjournal (by simp [Journal.empty])
  | @tail t u m hrun hallowed hstep ih =>
    intro before w after hjournal
    have ht : t.Reachable := ⟨s₀, hnew, hrun⟩
    by_cases hi : i < t.size
    · rcases hstep.participant_cases hi with
        ⟨hcleans, hsame⟩ | ⟨v, rfl, htask, -, happend⟩ | ⟨command, _, rfl, hobeys, -⟩ |
        ⟨-, hreset⟩
      · rw [journal, hsame] at hjournal
        exact (ih before w after hjournal).step ht hstep hcleans
      · have hconcat : (u.journal i).writes = (t.journal i).writes ++ [v] := by
          rw [journal, happend]
          rfl
        rw [hconcat] at hjournal
        -- the write is the one of this step, or it was in the journal before
        rcases concat_eq_append_cons.mp hjournal with ⟨-, rfl, rfl⟩ | ⟨rest, -, hrest⟩
        · refine ⟨t, u, ht, htask, hstep, rfl, hconcat, .refl, Or.inr ?_⟩
          rw [branch, branch, happend]
          rfl
        · exact (ih before w rest hrest).step ht hstep id
      · rw [journal, hobeys.keeps.2.2] at hjournal
        exact (ih before w after hjournal).step ht hstep id
      · rw [journal, hreset] at hjournal
        exact absurd hjournal (by simp [Connection.reset, Participant.reset, Journal.empty])
    · rw [(hstep.participant_of_ge (Nat.le_of_not_lt hi)).2] at hjournal
      exact absurd hjournal (by simp [Journal.empty])

/-! ## Commands that do not fit -/

/-- What the branch decides against leaves the connections, the lock and the stores as they are. -/
theorem order_of_error {command : Command} {f : BranchFault}
    (hdecision : command.decision (s.branch i) (s.journal i).isEmpty = .error f) :
    s.answer i command = .error f ∧ (s.order i command).core = s.core := by
  obtain ⟨p, t, hobeys, hcore⟩ := Connector.coordinate_obeys i command s.connector
  obtain ⟨hanswer, rfl, rfl⟩ := hobeys.of_error hdecision
  exact ⟨hanswer, hcore.trans Core.enact_self⟩

/-! ## The whole statement -/

/-- What holds of the branch of a connection at any time.  The stores remember what they were
asked, so that what is refused can be seen not to reach them. -/
structure KeepsOneBranch (s : Schedule (Recorded S)) (i : Nat) : Prop where
  idle_iff : (s.branch i).phase = .idle ↔ (s.branch i).xid = none
  unmarked : (s.branch i).phase = .idle → (s.branch i).success = false
  /-- A branch is adopted by an accepted `start` without flags and forgotten by a cleaning. -/
  adopted : ∀ m s', Step s m s' →
    (s'.branch i).xid = (s.branch i).xid ∨
    ((s.branch i).xid = none ∧ ∃ x, m = .coordinate i (.start x Flags.none) ∧
      (∃ vote, s.answer i (.start x Flags.none) = .ok vote) ∧ (s'.branch i).xid = some x) ∨
    (s.Cleans i m ∧ (s'.branch i).xid = none)
  /-- Every write in the journal was added since the last cleaning, and under no other branch. -/
  journaled : ∀ before w after, (s.journal i).writes = before ++ w :: after →
    s.WasAdded i before w
  /-- A command that does not fit is refused, changes nothing and asks the stores nothing. -/
  refused : ∀ command f, (s.branch i).Refuses command f →
    s.answer i command = .error f ∧
    (s.order i command).branch i = s.branch i ∧ (s.order i command).journal i = s.journal i ∧
    (s.order i command).connector.locks = s.connector.locks ∧
    (s.order i command).connector.outside.stores.history = s.connector.outside.stores.history

/-- Whatever operations and commands there were, each connection keeps to one branch. -/
theorem keepsOneBranch {s : Schedule (Recorded S)} (hs : s.Reachable) (i : Nat) :
    s.KeepsOneBranch i where
  idle_iff := (hs.isSingle i).idle_iff
  unmarked := (hs.isSingle i).unmarked
  adopted := fun _ _ hstep => hstep.xid_cases (hs.isSingle i)
  journaled := hs.wasAdded i
  refused := by
    intro command f hrefuses
    obtain ⟨hanswer, hcore⟩ := order_of_error (Branch.decision_of_refuses hrefuses _)
    exact ⟨hanswer, congrArg (fun k : Core _ => (k.connection i).participant.branch) hcore,
      congrArg (fun k : Core _ => (k.connection i).participant.journal) hcore,
      congrArg Core.locks hcore, congrArg (fun k => k.stores.history) hcore⟩

section

attribute [local instance] Engine.small

/-- A branch that has started and written something. -/
theorem keepsOneBranch_started :
    ∃ s : Schedule (Recorded Depot), s.Reachable ∧ (s.branch 0).phase = .active ∧
      (s.journal 0).size = 1 ∧ s.KeepsOneBranch 0 := by
  obtain ⟨s, hs, hphase, hsize⟩ : ∃ s : Schedule (Recorded Depot),
      (fresh ⟨Depot.ofSettings {} default, []⟩).follow
        [.connect, .coordinate 0 (.start ⟨1, [1], [2]⟩ Flags.none),
          .beginAccess 0 (.write (.clear "urn:g")), .carryOut 0] = some s ∧
      (s.branch 0).phase = .active ∧ (s.journal 0).size = 1 := ⟨_, rfl, rfl, rfl⟩
  have hreach : s.Reachable := ⟨_, isNew_fresh _, leads_of_follow (fun _ _ _ => trivial) hs⟩
  exact ⟨s, hreach, hphase, hsize, keepsOneBranch hreach 0⟩

end

end Schedule

end GraphCommit
