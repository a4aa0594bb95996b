import GraphCommit.Proofs.Derivation
import GraphCommit.Proofs.Piece
import GraphCommit.Proofs.Recorded

/-!
# Passes over the working repository

A pass opens the working repository, works with clients of the repositories, and shuts the working
repository down at the end (`IsPass`).  Nothing but a pass opens it or shuts it down: what else a
connector does spares it.

The working repository has no lock of its own.  So that passes take turns is a statement on a whole
history (`TakesTurns`): the repository is never opened while it is open, and it is shut down only by
the pass that has opened it.
-/

namespace GraphCommit

/-- Whether a question opens the working repository or shuts it down. -/
def Question.isWorking : Question → Bool
  | openWorking => true
  | shutDownWorking => true
  | _ => false

namespace Recorded

variable {S : Type}

/-! ## Histories -/

/-- The history goes on, and what was asked neither opened nor shut down the working repository. -/
def Spares (r t : Recorded S) : Prop :=
  ∃ asked, t.history = r.history ++ asked ∧ ∀ e ∈ asked, e.question.isWorking = false

/-- The questions of one pass.  One that cannot open the working repository asks nothing more. -/
inductive IsPass : List (Entry S) → Prop
  | refused {first : Entry S} (hopens : first.question = .openWorking)
      (hrefused : first.answered = false) : IsPass [first]
  | ended {first last : Entry S} {between : List (Entry S)} (hopens : first.question = .openWorking)
      (hanswered : first.answered = true) (hbetween : ∀ e ∈ between, e.question.isWorking = false)
      (hshuts : last.question = .shutDownWorking) : IsPass (first :: (between ++ [last]))

end Recorded

/-- Whether the working repository is open after a question, if it was open or not before.  It must
not be opened twice, and not be shut down when it is not open. -/
def Entry.turn {S : Type} (isOpen : Bool) (e : Entry S) : Option Bool :=
  match e.question with
  | .openWorking => if isOpen then none else some e.answered
  | .shutDownWorking => if isOpen then some false else none
  | _ => some isOpen

namespace Recorded

variable {S : Type} {r t u : Recorded S} {asked later : List (Entry S)}

/-- The working repository is closed before and after some questions, and passes over it do not
overlap. -/
def TakesTurns (asked : List (Entry S)) : Prop := asked.foldlM Entry.turn false = some false

theorem Spares.refl (r : Recorded S) : r.Spares r := ⟨[], by simp, by simp⟩

theorem Spares.trans (hfirst : r.Spares t) (hsecond : t.Spares u) : r.Spares u := by
  obtain ⟨asked, hasked, hspared⟩ := hfirst
  obtain ⟨later, hlater, hspares⟩ := hsecond
  refine ⟨asked ++ later, by rw [hlater, hasked, List.append_assoc], fun e he => ?_⟩
  exact (List.mem_append.mp he).elim (hspared e) (hspares e)

theorem spares_after [Backend S] (r : Recorded S) {q : Question} (hq : q.isWorking = false) :
    r.Spares (q.after r) := by
  refine ⟨_, r.history_after q, fun e he => ?_⟩
  rw [List.mem_singleton.mp he]
  exact hq

/-- What spares the working repository leaves it open or closed as it is. -/
theorem foldlM_of_spared (hspared : ∀ e ∈ asked, e.question.isWorking = false) (isOpen : Bool) :
    asked.foldlM Entry.turn isOpen = some isOpen := by
  induction asked with
  | nil => rfl
  | cons e rest ih =>
    have hturn : e.turn isOpen = some isOpen := by
      have hfirst := hspared e List.mem_cons_self
      unfold Entry.turn
      cases hquestion : e.question <;> simp [hquestion, Question.isWorking] at hfirst ⊢
    rw [List.foldlM_cons, hturn]
    exact ih fun e he => hspared e (List.mem_cons_of_mem _ he)

theorem takesTurns_nil : TakesTurns ([] : List (Entry S)) := rfl

theorem takesTurns_of_spared (hspared : ∀ e ∈ asked, e.question.isWorking = false) :
    TakesTurns asked := foldlM_of_spared hspared false

theorem TakesTurns.append (hfirst : TakesTurns asked) (hsecond : TakesTurns later) :
    TakesTurns (asked ++ later) := by
  rw [TakesTurns, List.foldlM_append, show asked.foldlM Entry.turn false = _ from hfirst]
  exact hsecond

theorem IsPass.takesTurns (hpass : IsPass asked) : TakesTurns asked := by
  cases hpass with
  | refused hopens hrefused => simp [TakesTurns, Entry.turn, hopens, hrefused]
  | @ended first last between hopens hanswered hbetween hshuts =>
    have hopened : first.turn false = some true := by simp [Entry.turn, hopens, hanswered]
    have hclosed : last.turn true = some false := by simp [Entry.turn, hshuts]
    rw [TakesTurns, List.foldlM_cons, hopened]
    change (between ++ [last]).foldlM Entry.turn true = some false
    rw [List.foldlM_append, foldlM_of_spared hbetween]
    change [last].foldlM Entry.turn true = some false
    rw [List.foldlM_cons, hclosed]
    rfl

theorem IsPass.opens (hpass : IsPass asked) : .openWorking ∈ asked.map Entry.question := by
  cases hpass with
  | refused hopens hrefused => exact List.mem_map.mpr ⟨_, List.mem_cons_self, hopens⟩
  | ended hopens hanswered hbetween hshuts =>
    exact List.mem_map.mpr ⟨_, List.mem_cons_self, hopens⟩

theorem not_opens_of_spared (hspared : ∀ e ∈ asked, e.question.isWorking = false) :
    .openWorking ∉ asked.map Entry.question := by
  intro hopens
  obtain ⟨e, he, heq⟩ := List.mem_map.mp hopens
  have hnot := hspared e he
  rw [heq] at hnot
  contradiction

/-! ## A derivation -/

variable [Backend S]

/-- In the middle of a pass: the working repository was opened and is not shut down yet. -/
def IsUnderway (r t : Recorded S) : Prop :=
  ∃ first between, t.history = r.history ++ first :: between ∧ first.question = .openWorking ∧
    first.answered = true ∧ ∀ e ∈ between, e.question.isWorking = false

theorem IsUnderway.after (hunderway : r.IsUnderway t) {q : Question} (hq : q.isWorking = false) :
    r.IsUnderway (q.after t) := by
  obtain ⟨first, between, hhistory, hopens, hanswered, hbetween⟩ := hunderway
  obtain ⟨asked, hasked, hspared⟩ := t.spares_after hq
  refine ⟨first, between ++ asked, ?_, hopens, hanswered, fun e he => ?_⟩
  · rw [hasked, hhistory, List.append_assoc]
    rfl
  · exact (List.mem_append.mp he).elim (hbetween e) (hspared e)

/-- A derivation is a pass. -/
theorem isPass_run (target : ClientId) (context : String) (writes : List Write)
    (o : Outside (Recorded S)) :
    ∃ asked, (Derivation.run target context writes o).2.stores.history =
      o.stores.history ++ asked ∧ IsPass asked := by
  apply Derivation.run_stores (Q := fun _ => o.stores.IsUnderway)
    (R := fun t => ∃ asked, t.history = o.stores.history ++ asked ∧ IsPass asked)
  · have hhistory := o.stores.history_after .openWorking
    cases hresult : (Backend.openWorking o.stores).result with
    | error f =>
      refine ⟨_, hhistory, .refused rfl ?_⟩
      change (Backend.openWorking o.stores).result.isOk = false
      rw [hresult]
      rfl
    | ok working =>
      refine ⟨_, [], hhistory, rfl, ?_, by simp⟩
      change (Backend.openWorking o.stores).result.isOk = true
      rw [hresult]
      rfl
  · intro working
    exact {
      target := fun t w ht => ht.after (q := .act target (.write w)) rfl
      write := fun t w ht => ht.after (q := .act working (.write w)) rfl
      commit := fun t ht => ht.after (q := .act working .commit) rfl
      disconnect := fun t ht => ht.after (q := .act working .disconnect) rfl
      select := fun t text ht => ht.after (q := .select working text) rfl
      ask := fun t text ht => ht.after (q := .ask working text) rfl }
  · rintro working t ⟨first, between, hhistory, hopens, hanswered, hbetween⟩
    have hlast := t.history_after .shutDownWorking
    rw [hhistory, List.append_assoc] at hlast
    exact ⟨_, hlast, .ended hopens hanswered hbetween rfl⟩

/-! ## What spares the working repository -/

theorem spares_onStores (p : Participant) (r : Recorded S) :
    r.Spares (p.strategy.onStores r p.client p.journal.size).2 := by
  have hcommit : r.Spares (Backend.act r p.client .commit).state :=
    r.spares_after (q := .act p.client .commit) rfl
  unfold Strategy.onStores
  generalize Backend.act r p.client .commit = response at hcommit
  rcases response with ⟨f | _, t, records⟩
  · exact hcommit
  · cases p.strategy with
    | plain => exact hcommit
    | flushing =>
      dsimp only
      split
      · exact hcommit.trans (t.spares_after (q := .act p.client .flush) rfl)
      · exact hcommit

/-- Whatever the coordinator tells a participant. -/
theorem spares_of_obeys {p q : Participant} {command : Command}
    {answer : Except BranchFault (Option Vote)} (hobeys : p.Obeys r command answer q t) :
    r.Spares t := by
  cases hobeys with
  | refused hdecision => exact .refl r
  | moved hlocal hdecision => exact .refl r
  | notCommitted hallowed hfault => exact spares_onStores p r
  | committed hallowed hdone => exact spares_onStores p r
  | committedListing hallowed hdone hwrote =>
    exact (spares_onStores p r).trans
      (spares_after _ (q := .select p.client Queries.allTransformations) rfl)
  | rolledBack hallowed => exact r.spares_after (q := .act p.client .rollback) rfl

theorem spares_perform (k : Core (Recorded S)) (i : Nat) (w : Write) :
    k.stores.Spares (k.perform i w).stores := by
  have hwrite := k.stores.spares_after (q := .act (k.connection i).client (.write w)) rfl
  unfold Core.perform
  split <;> exact hwrite

theorem spares_clean (k : Core (Recorded S)) (i : Nat) : k.stores.Spares (k.clean i).stores :=
  k.stores.spares_after (q := .act (k.connection i).client .invalidate) rfl

end Recorded

end GraphCommit
