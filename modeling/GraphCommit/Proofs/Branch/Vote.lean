import GraphCommit.Proofs.Branch.History
import GraphCommit.Proofs.Branch.Outcome

/-!
# What a participant votes

A participant decides from one flag and from whether its journal is empty.  The decision it should
make depends on the past: a branch may be completed if it was ended with success and was not ended
with failure after that, and there is something to commit if a write went through.

The two agree in every run (`votes_by_history`).  Whoever looks at the past alone can say what
`prepare` answers and whether `commit` reaches the client.
-/

namespace GraphCommit

namespace Branch

variable {b : Branch} {x : Xid} {wroteNothing : Bool}

/-- What `prepare` answers, without what becomes of the branch. -/
theorem decision_prepare :
    ((Command.prepare x).decision b wroteNothing).map Prod.fst =
      (b.checkSuccess x).map fun _ => some (if wroteNothing then Vote.readOnly else Vote.ok) := by
  simp only [Command.decision, prepare]
  cases b.checkSuccess x with
  | error f => rfl
  | ok _ => cases wroteNothing <;> rfl

/-- The commands that complete a branch if it was ended with success. -/
inductive Completes (x : Xid) : Command → Prop
  | prepare : Completes x (.prepare x)
  | commit (onePhase : Bool) : Completes x (.commit x onePhase)

/-- A branch that is not marked for a commit decides against completing it. -/
theorem Completes.decision {command : Command} (hcompletes : Completes x command)
    (hxid : b.xid = some x) (hsuccess : b.success = false) :
    command.decision b wroteNothing = .error (.rollbackOnly x.text) := by
  have hcheck : b.checkSuccess x = .error (.rollbackOnly x.text) := by
    rw [checkSuccess_of_eq hxid, hsuccess]
    rfl
  cases hcompletes with
  | prepare => simp [Command.decision, Branch.prepare, hcheck, bind, Except.bind, Except.map]
  | commit onePhase => simp [Command.decision, hcheck, Except.map]

end Branch

namespace Schedule

open Branch

variable {S : Type} [Backend S] {i : Nat} {x : Xid}

theorem answer_prepare {s : Schedule S} (hi : i < s.size) (x : Xid) :
    s.answer i (.prepare x) = ((s.branch i).checkSuccess x).map fun _ =>
      some (if (s.journal i).isEmpty then Vote.readOnly else Vote.ok) := by
  rw [(order_obeys (.prepare x) hi).answer_of_isLocal rfl]
  exact decision_prepare

/-- A vote is given if the branch is the adopted one and marked for a commit; it says whether the
journal is empty. -/
theorem answer_prepare_eq_ok_iff {s : Schedule S} (hi : i < s.size) {vote : Vote} :
    s.answer i (.prepare x) = .ok (some vote) ↔
      ((s.branch i).xid = some x ∧ (s.branch i).success = true) ∧
      (vote = .readOnly ↔ (s.journal i).writes = []) := by
  rw [answer_prepare hi, ← checkSuccess_eq_ok_iff]
  have hempty : (s.journal i).isEmpty = true ↔ (s.journal i).writes = [] := List.isEmpty_iff
  cases (s.branch i).checkSuccess x with
  | error f => simp [Except.map]
  | ok _ =>
    rw [← hempty]
    cases (s.journal i).isEmpty <;> cases vote <;> simp [Except.map]

variable {s : Schedule (Recorded S)} {past : Past}

/-- A vote is given exactly to a branch that is marked for a commit in the past. -/
theorem HasPast.votes_iff (hpast : s.HasPast i past) (hi : i < s.size) :
    (∃ vote, s.answer i (.prepare x) = .ok (some vote)) ↔ past.HasMarked x := by
  rw [← hpast.makes.marked_iff]
  constructor
  · rintro ⟨vote, hvote⟩
    exact ((answer_prepare_eq_ok_iff hi).mp hvote).1
  · intro hmarked
    by_cases hempty : (s.journal i).writes = []
    · exact ⟨.readOnly, (answer_prepare_eq_ok_iff hi).mpr ⟨hmarked, by simp [hempty]⟩⟩
    · exact ⟨.ok, (answer_prepare_eq_ok_iff hi).mpr ⟨hmarked, by simp [hempty]⟩⟩

theorem HasPast.asksCommit_iff (hpast : s.HasPast i past) (hi : i < s.size) (onePhase : Bool) :
    s.AsksCommit (s.order i (.commit x onePhase)) i ↔ past.HasMarked x := by
  rw [← hpast.makes.marked_iff]
  exact Schedule.asksCommit_iff hi x onePhase

/-- An unmarked branch is refused its completion, and nothing happens. -/
theorem HasPast.refused (hpast : s.HasPast i past) (hadopted : past.HasAdopted x)
    (hunmarked : ¬ past.HasMarked x) {command : Command} (hcompletes : Completes x command) :
    s.answer i command = .error (.rollbackOnly x.text) ∧ (s.order i command).core = s.core := by
  have hxid := hpast.makes.xid_iff.mpr hadopted
  have hsuccess : (s.branch i).success = false := by
    by_contra hmarked
    exact hunmarked (hpast.makes.marked_iff.mp ⟨hxid, by simpa using hmarked⟩)
  exact order_of_error (hcompletes.decision hxid hsuccess)

/-! ## The whole statement -/

/-- What `prepare` and `commit` do, as the past of the connection tells it. -/
structure VotesByHistory (s : Schedule (Recorded S)) (i : Nat) (past : Past) : Prop where
  adopted : ∀ x, (s.branch i).xid = some x ↔ past.HasAdopted x
  journaled : (s.journal i).writes = [] ↔ ¬ past.HasWritten
  /-- A vote is given exactly to a branch that was ended with success and not with failure since. -/
  votes : ∀ x, (∃ vote, s.answer i (.prepare x) = .ok (some vote)) ↔ past.HasMarked x
  /-- The client is asked to commit such a branch and no other. -/
  commits : ∀ x onePhase,
    s.AsksCommit (s.order i (.commit x onePhase)) i ↔ past.HasMarked x
  /-- Any other adopted branch can only be rolled back.  It is left alone, and so are its journal,
  the lock and the stores. -/
  refused : ∀ x, past.HasAdopted x → ¬ past.HasMarked x → ∀ command, Completes x command →
    s.answer i command = .error (.rollbackOnly x.text) ∧ (s.order i command).core = s.core
  /-- On a branch that is ended, the vote says how it was ended and if something was written. -/
  ended : ∀ x, (s.branch i).phase = .ended → past.HasAdopted x →
    (s.answer i (.prepare x) = .error (.rollbackOnly x.text) ↔
      past.LastAccepted (.finish x Flags.fail)) ∧
    (s.answer i (.prepare x) = .ok (some .readOnly) ↔
      past.LastAccepted (.finish x Flags.success) ∧ (s.journal i).writes = []) ∧
    (s.answer i (.prepare x) = .ok (some .ok) ↔
      past.LastAccepted (.finish x Flags.success) ∧ (s.journal i).writes ≠ [])

/-- The participant of a connection votes and commits by what the connection has been through. -/
theorem votes_by_history (hpast : s.HasPast i past) (hi : i < s.size) :
    s.VotesByHistory i past where
  adopted := fun x => hpast.makes.xid_iff
  journaled := (not_iff_comm.mp hpast.makes.written_iff).symm
  votes := fun x => hpast.votes_iff hi
  commits := fun x onePhase => hpast.asksCommit_iff hi onePhase
  refused := fun x hadopted hunmarked command hcompletes =>
    hpast.refused hadopted hunmarked hcompletes
  ended := by
    intro x hphase hadopted
    have hxid := hpast.makes.xid_iff.mpr hadopted
    have hended : ∀ success, past.LastAccepted (.finish x (ending success)) ↔
        (s.branch i).success = success := by
      intro success
      rw [← hpast.makes.ended_iff]
      simp [hphase, hxid]
    have hfail : past.LastAccepted (.finish x Flags.fail) ↔ (s.branch i).success = false :=
      hended false
    have hsuccess : past.LastAccepted (.finish x Flags.success) ↔ (s.branch i).success = true :=
      hended true
    refine ⟨?_, ?_, ?_⟩
    · rw [hfail, answer_prepare hi, checkSuccess_of_eq hxid]
      cases (s.branch i).success <;> simp [Except.map]
    · rw [hsuccess, answer_prepare_eq_ok_iff hi]
      simp [hxid]
    · rw [hsuccess, answer_prepare_eq_ok_iff hi]
      simp [hxid]

/-- A branch is asked for its vote too early, is suspended and resumed, writes something and is
ended with success. -/
def endingLate : List Move :=
  [.connect, .coordinate 0 (.start sampleXid Flags.none), .coordinate 0 (.prepare sampleXid),
    .coordinate 0 (.finish sampleXid Flags.suspend), .coordinate 0 (.start sampleXid Flags.resume),
    .beginAccess 0 (.write (.clear "urn:g")), .carryOut 0,
    .coordinate 0 (.finish sampleXid Flags.success)]

section

attribute [local instance] Engine.small

theorem votes_by_history_endingLate :
    ∃ (s : Schedule (Recorded Depot)) (past : Past), s.HasPast 0 past ∧ 0 < s.size ∧
      past.length = 5 ∧ s.answer 0 (.prepare sampleXid) = .ok (some .ok) ∧
      s.VotesByHistory 0 past := by
  obtain ⟨s, hs, hsize, hanswer⟩ : ∃ s, sampleStart.follow endingLate = some s ∧ s.size = 1 ∧
      s.answer 0 (.prepare sampleXid) = .ok (some .ok) := ⟨_, rfl, rfl, rfl⟩
  have hpast : s.HasPast 0 (sampleStart.events 0 endingLate) := hasPast_of_follow hs
  have hlength : (sampleStart.events 0 endingLate).length = 5 := rfl
  have hi : 0 < s.size := by omega
  exact ⟨s, _, hpast, hi, hlength, hanswer, votes_by_history hpast hi⟩

end

end Schedule

end GraphCommit
