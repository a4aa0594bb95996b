import GraphCommit.Proofs.Branch.Vote

/-!
# Branches that are worked on

A branch should be voted on and committed when the work on it is over: whatever was started or
suspended should have been ended with success after that.  The participant does not look for this.
It looks at the success flag, and the flag of a branch that was ended with success stays when the
branch is joined, resumed or suspended again.

So a branch can be committed while it is worked on (`completes_in_progress`).  It takes such a
command on a branch that is marked for a commit; without one, a branch is completed only after its
work is ended (`completes_ended_work`).
-/

namespace GraphCommit

namespace Branch

/-- Work on a branch goes on or is suspended. -/
def IsInProgress (b : Branch) : Prop := b.phase = .active ∨ b.phase = .suspended

/-- Work on a branch is started, joined, resumed or suspended. -/
inductive Engages (x : Xid) : Event → Prop
  | start (flags : Flags) : Engages x (.accepted (.start x flags))
  | suspend : Engages x (.accepted (.finish x Flags.suspend))

variable {b moved : Branch} {wroteNothing : Bool} {command : Command} {x : Xid} {e : Event}

/-- Such an event neither ends a branch nor cleans the connection. -/
theorem Engages.ne (hengages : Engages x e) : e ≠ .cleaned ∧
    e ≠ .accepted (.finish x Flags.success) ∧ e ≠ .accepted (.finish x Flags.fail) := by
  have hsuspend : Flags.suspend ≠ Flags.success ∧ Flags.suspend ≠ Flags.fail := by decide
  cases hengages with
  | start flags => simp
  | suspend => simpa using hsuspend

/-- Only after such an event is a branch in progress. -/
theorem Accepts.engages (haccepts : b.Accepts wroteNothing command moved)
    (hxid : moved.xid = some x) (hprogress : moved.IsInProgress) :
    Engages x (.accepted command) := by
  have hother : ∀ phase, moved.phase = phase → phase ≠ .active → phase ≠ .suspended →
      Engages x (.accepted command) := by
    rintro _ rfl hactive hsuspended
    exact (hprogress.elim hactive hsuspended).elim
  cases haccepts with
  | @adopt y hphase =>
    obtain rfl : y = x := Option.some.inj hxid
    exact .start _
  | @rejoin y flags hflags hadopted =>
    obtain rfl : y = x := Option.some.inj (hadopted.symm.trans hxid)
    exact .start _
  | @suspend y hadopted =>
    obtain rfl : y = x := Option.some.inj (hadopted.symm.trans hxid)
    exact .suspend
  | succeed _ => exact hother .ended rfl (by simp) (by simp)
  | fail _ => exact hother .ended rfl (by simp) (by simp)
  | voteReadOnly _ _ _ => exact hother .committed rfl (by simp) (by simp)
  | voteOk _ _ _ => exact hother .prepared rfl (by simp) (by simp)
  | commit _ _ => exact hother .committed rfl (by simp) (by simp)
  | rollback _ => exact hother .rolledBack rfl (by simp) (by simp)

namespace Past

/-- The branch was started, joined, resumed or suspended, and not ended with success since. -/
def HasOpenWork (past : Past) (x : Xid) : Prop :=
  Since (fun _ e => Engages x e) (fun e => e = .cleaned ∨ e = .accepted (.finish x Flags.success))
    past

/-- This happened when the branch was marked for a commit, and it was not ended since. -/
def IsContinued (past : Past) (x : Xid) : Prop :=
  Since (fun before e => HasMarked before x ∧ Engages x e)
    (fun e => e = .cleaned ∨ e = .accepted (.finish x Flags.success) ∨
      e = .accepted (.finish x Flags.fail)) past

variable {past : Past} {j : Journal}

theorem hasOpenWork_concat : HasOpenWork (past ++ [e]) x ↔ Engages x e ∨
    HasOpenWork past x ∧ ¬ (e = .cleaned ∨ e = .accepted (.finish x Flags.success)) :=
  since_concat

theorem isContinued_concat : IsContinued (past ++ [e]) x ↔ (HasMarked past x ∧ Engages x e) ∨
    IsContinued past x ∧ ¬ (e = .cleaned ∨ e = .accepted (.finish x Flags.success) ∨
      e = .accepted (.finish x Flags.fail)) :=
  since_concat

/-- A branch that is in progress has work that was not ended with success. -/
theorem Makes.hasOpenWork (hmakes : Makes past b j) (hxid : b.xid = some x)
    (hprogress : b.IsInProgress) : HasOpenWork past x := by
  induction hmakes with
  | new => simp [idle] at hxid
  | accepted hmakes haccepts ih =>
    exact hasOpenWork_concat.mpr (Or.inl (haccepts.engages hxid hprogress))
  | wrote w hmakes ih => exact hasOpenWork_concat.mpr (Or.inr ⟨ih hxid hprogress, by simp⟩)
  | cleaned hmakes ih => simp [idle] at hxid

/-- If a marked branch has open work exactly when it was continued, so it does one event later. -/
theorem isContinued_concat_iff (ih : HasMarked past x ∧ HasOpenWork past x ↔ IsContinued past x)
    (e : Event) : HasMarked (past ++ [e]) x ∧ HasOpenWork (past ++ [e]) x ↔
      IsContinued (past ++ [e]) x := by
  rw [hasMarked_concat, hasOpenWork_concat, isContinued_concat]
  by_cases hengages : Engages x e
  · -- the mark stays, and from now on there is open work
    obtain ⟨hcleaned, hsuccess, hfail⟩ := hengages.ne
    have hkeeps : ¬ (e = .cleaned ∨ e = .accepted (.finish x Flags.fail)) :=
      not_or.mpr ⟨hcleaned, hfail⟩
    constructor
    · rintro ⟨⟨-, hends⟩ | ⟨hmarked, -⟩, -⟩
      · exact absurd hends hsuccess
      · exact Or.inl ⟨hmarked, hengages⟩
    · rintro (⟨hmarked, -⟩ | ⟨hcontinued, -⟩)
      · exact ⟨Or.inr ⟨hmarked, hkeeps⟩, Or.inl hengages⟩
      · exact ⟨Or.inr ⟨(ih.mpr hcontinued).1, hkeeps⟩, Or.inl hengages⟩
  · by_cases hsuccess : e = .accepted (.finish x Flags.success)
    -- nothing is open any more
    · refine iff_of_false ?_ ?_
      · rintro ⟨-, hopen⟩
        exact hopen.elim hengages fun hkept => hkept.2 (Or.inr hsuccess)
      · rintro (⟨-, hstarts⟩ | ⟨-, hends⟩)
        · exact hengages hstarts
        · exact hends (Or.inr (Or.inl hsuccess))
    · simp only [hengages, hsuccess, ← ih, and_false, false_or, or_false]
      constructor
      · rintro ⟨⟨hmarked, hkeeps⟩, hopen, -⟩
        exact ⟨⟨hmarked, hopen⟩, hkeeps⟩
      · rintro ⟨⟨hmarked, hopen⟩, hkeeps⟩
        exact ⟨⟨hmarked, hkeeps⟩, hopen, fun hcleaned => hkeeps (Or.inl hcleaned)⟩

/-- A marked branch has open work exactly if it was continued while it was marked. -/
theorem Makes.isContinued_iff (hmakes : Makes past b j) :
    HasMarked past x ∧ HasOpenWork past x ↔ IsContinued past x := by
  induction hmakes with
  | new => simp [HasMarked, IsContinued]
  | accepted hmakes haccepts ih => exact isContinued_concat_iff ih _
  | wrote w hmakes ih => exact isContinued_concat_iff ih _
  | cleaned hmakes ih => exact isContinued_concat_iff ih _

end Past

end Branch

namespace Schedule

open Branch

variable {S : Type} [Backend S] {i : Nat}

/-- When a branch is voted on or committed, with respect to the work on it. -/
structure CompletesEndedWork (s : Schedule (Recorded S)) (i : Nat) (past : Past) (x : Xid) :
    Prop where
  votes : ¬ past.IsContinued x → (∃ vote, s.answer i (.prepare x) = .ok (some vote)) →
    ¬ (s.branch i).IsInProgress ∧ ¬ past.HasOpenWork x
  commits : ¬ past.IsContinued x →
    (∃ onePhase, s.AsksCommit (s.order i (.commit x onePhase)) i) →
    ¬ (s.branch i).IsInProgress ∧ ¬ past.HasOpenWork x
  /-- A branch that was continued while it was marked is voted on and committed in spite of its open
  work. -/
  continued : past.IsContinued x →
    (∃ vote, s.answer i (.prepare x) = .ok (some vote)) ∧
    (∀ onePhase, s.AsksCommit (s.order i (.commit x onePhase)) i) ∧ past.HasOpenWork x

variable {s : Schedule (Recorded S)} {past : Past}

theorem HasPast.ended_of_not_continued {x : Xid} (hpast : s.HasPast i past)
    (hmarked : past.HasMarked x) (hnot : ¬ past.IsContinued x) :
    ¬ (s.branch i).IsInProgress ∧ ¬ past.HasOpenWork x := by
  have hopen : ¬ past.HasOpenWork x := fun hopen =>
    hnot (hpast.makes.isContinued_iff.mp ⟨hmarked, hopen⟩)
  have hxid := (hpast.makes.marked_iff.mpr hmarked).1
  exact ⟨fun hprogress => hopen (hpast.makes.hasOpenWork hxid hprogress), hopen⟩

/-- A branch is completed when its work is ended, unless it was continued while it was marked. -/
theorem completes_ended_work (hpast : s.HasPast i past) (hi : i < s.size) (x : Xid) :
    s.CompletesEndedWork i past x where
  votes := fun hnot hvotes => hpast.ended_of_not_continued ((hpast.votes_iff hi).mp hvotes) hnot
  commits := by
    rintro hnot ⟨onePhase, hasks⟩
    exact hpast.ended_of_not_continued ((hpast.asksCommit_iff hi onePhase).mp hasks) hnot
  continued := by
    intro hcontinued
    obtain ⟨hmarked, hopen⟩ := hpast.makes.isContinued_iff.mpr hcontinued
    exact ⟨(hpast.votes_iff hi).mpr hmarked,
      fun onePhase => (hpast.asksCommit_iff hi onePhase).mpr hmarked, hopen⟩

/-- A branch writes and is ended with success. -/
def endingWork : List Move :=
  [.connect, .coordinate 0 (.start sampleXid Flags.none),
    .beginAccess 0 (.write (.addTriple ⟨"urn:s", "urn:p", "urn:o"⟩ "urn:g")), .carryOut 0,
    .coordinate 0 (.finish sampleXid Flags.success)]

section

attribute [local instance] Engine.small

theorem completes_ended_work_writing :
    ∃ (s : Schedule (Recorded Depot)) (past : Past), s.HasPast 0 past ∧ 0 < s.size ∧
      past.HasMarked sampleXid ∧ ¬ past.HasOpenWork sampleXid ∧
      s.CompletesEndedWork 0 past sampleXid := by
  obtain ⟨s, hs, hsize, hxid, hsuccess⟩ : ∃ s, sampleStart.follow endingWork = some s ∧
      s.size = 1 ∧ (s.branch 0).xid = some sampleXid ∧ (s.branch 0).success = true :=
    ⟨_, rfl, rfl, rfl, rfl⟩
  have hpast : s.HasPast 0 (sampleStart.events 0 endingWork) := hasPast_of_follow hs
  have hi : 0 < s.size := by omega
  have hmarked := hpast.makes.marked_iff.mp ⟨hxid, hsuccess⟩
  have hlast : sampleStart.events 0 endingWork = (sampleStart.events 0 endingWork).take 2 ++
      [.accepted (.finish sampleXid Flags.success)] := rfl
  have hopen : ¬ (sampleStart.events 0 endingWork).HasOpenWork sampleXid := by
    rw [hlast, Past.hasOpenWork_concat]
    rintro (hengages | ⟨-, hnot⟩)
    · exact hengages.ne.2.1 rfl
    · exact hnot (Or.inr rfl)
  exact ⟨s, _, hpast, hi, hmarked, hopen, completes_ended_work hpast hi sampleXid⟩

/-- A branch that was ended with success is joined again and, while it is worked on, the client is
asked to commit it. -/
theorem completes_in_progress :
    ¬ ∀ (s : Schedule (Recorded Depot)) (i : Nat) (x : Xid), s.Reachable →
      ((∃ vote, s.answer i (.prepare x) = .ok (some vote)) ∨
        ∃ onePhase, s.AsksCommit (s.order i (.commit x onePhase)) i) →
      ¬ (s.branch i).IsInProgress := by
  intro hended
  obtain ⟨s, hs, hsize, hxid, hsuccess, hphase⟩ : ∃ s,
      sampleStart.follow (endingWork ++ [.coordinate 0 (.start sampleXid Flags.join)]) = some s ∧
      s.size = 1 ∧ (s.branch 0).xid = some sampleXid ∧ (s.branch 0).success = true ∧
      (s.branch 0).phase = .active := ⟨_, rfl, rfl, rfl, rfl, rfl⟩
  have hreach : s.Reachable := (hasPast_of_follow (i := 0) hs).reachable
  have hasks : s.AsksCommit (s.order 0 (.commit sampleXid false)) 0 :=
    (Schedule.asksCommit_iff (by omega) _ _).mpr ⟨hxid, hsuccess⟩
  exact hended s 0 sampleXid hreach (Or.inr ⟨false, hasks⟩) (Or.inl hphase)

end

end Schedule

end GraphCommit
