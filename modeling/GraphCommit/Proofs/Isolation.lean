import GraphCommit.Proofs.Opening
import GraphCommit.Query.Engine

/-!
# Branches do not see each other

A branch is under way while its journal holds writes or its client has staged changes (`IsBusy`).
At most one branch is, for it has the write lock.  Who has the write lock keeps it until the
connection is cleaned, and for so long no client of another connection writes or queries.

Committed data change at one moment only: when a branch is committed, all at once, or not at all if
the transaction fails.  So a query of another connection sees nothing of a branch as long as the
branch is not cleaned, and all that it has committed afterwards (`isolates`).
-/

namespace GraphCommit.Schedule

open Recorded

variable {s s₀ s' t : Schedule (Recorded Depot)} {m : Move} {i j : Nat}

/-- Whether a connection has writes in its journal or staged changes. -/
def IsBusy (s : Schedule (Recorded Depot)) (i : Nat) : Prop :=
  i < s.size ∧ ((s.journal i).writes ≠ [] ∨ s.core.staged i ≠ [])

section

variable [Engine]

/-! ## The lock of a busy connection -/

/-- What is staged is in the journal. -/
theorem IsBusy.writes (hi : s.IsBusy i) (hs : s.Serves) : (s.journal i).writes ≠ [] := by
  intro hempty
  rcases hi.2 with hwrites | hstaged
  · exact hwrites hempty
  · exact hstaged (hs.kept.unstaged i hi.1 hempty)

theorem IsBusy.grants (hi : s.IsBusy i) (hs : s.Serves) :
    s.core.locks.requests.Grants (s.core.holder i) .exclusive :=
  hs.orderly.writes i (hi.writes hs)

/-- Who is granted anything beside a busy connection is this connection. -/
theorem IsBusy.eq_of_grants {mode : Lock.Mode} (hi : s.IsBusy i) (hs : s.Serves) (hj : j < s.size)
    (hgrants : s.core.locks.requests.Grants (s.core.holder j) mode) : j = i := by
  have ho := hs.orderly
  have hsame := (hi.grants hs).eq_of_exclusive ho.coherent.single hgrants
  exact ho.holders j i hj hi.1 hsame

theorem IsBusy.eq (hi : s.IsBusy i) (hj : s.IsBusy j) (hs : s.Serves) : i = j :=
  hj.eq_of_grants hs hi.1 (hi.grants hs)

/-- Beside a busy connection nobody is about to work under the lock. -/
theorem IsBusy.not_ready (hi : s.IsBusy i) (hs : s.Serves) (hij : j ≠ i) (work : Work) :
    s.tasks j ≠ .ready work := by
  intro htask
  have ho := hs.orderly
  have hj : j < s.size := ho.lt_of_task (by simp [htask])
  have hfits := ho.fits j hj
  rw [htask] at hfits
  have hholds : s.core.locks.Holds (s.core.holder j) work.mode := hfits
  rcases hholds.granted with hgrants | hgrants
  · exact hij (hi.eq_of_grants hs hj hgrants)
  · exact hij (hi.eq_of_grants hs hj hgrants)

theorem IsBusy.journal_eq_nil (hi : s.IsBusy i) (hs : s.Serves) (hj : j < s.size) (hij : j ≠ i) :
    (s.journal j).writes = [] := by
  by_contra hne
  exact hij (IsBusy.eq ⟨hj, Or.inl hne⟩ hi hs)

/-! ## Accesses beside a busy connection -/

/-- Work under the lock aside, only a commit of a branch that has written something puts a query. -/
theorem Business.no_access {asked : List (Entry Depot)} {data : Dataset} {staged : List Staged}
    (hbusiness : s.Business j m asked data staged) (hready : ∀ work, s.tasks j ≠ .ready work)
    (hempty : (s.journal j).writes = []) : ∀ e ∈ asked, e.question.isAccess = false := by
  intro e he
  cases hbusiness with
  | wrote htask hanswer => exact absurd htask (hready _)
  | refused htask hanswer => exact absurd htask (hready _)
  | queried htask => exact absurd htask (hready _)
  | derived htask => exact absurd htask (hready _)
  | committed hanswer hwrites haccess =>
    by_contra htrue
    exact haccess e he (by simpa using htrue) hempty
  | notCommitted hanswer haccess => exact haccess e he
  | discarded hdiscards ha =>
    rw [List.mem_singleton.mp he]
    exact Question.isAccess_act ha

/-- What a step asks, with the connection that each client belongs to. -/
theorem Step.askers (hstep : Step s m s') (hs : s.Serves) :
    ∃ asked, s'.core.stores.history = s.core.stores.history ++ asked ∧
      ∀ e ∈ asked, ∀ j, j < s.size → e.question.client? = some (s.core.client j) →
        e.before.Serves (s.core.client j).number ∧
          ∃ data staged, s.Business j m asked data staged := by
  have hk := hs.kept
  cases hstep.asked hk hs.orderly with
  | nothing hstores => exact ⟨[], by rw [hstores, List.append_nil], by simp⟩
  | client hhistory happly =>
    refine ⟨_, hhistory, fun e he j hj hclient => ?_⟩
    rw [List.mem_singleton.mp he] at hclient
    contradiction
  | @own i asked data staged hi hacted hbusiness =>
    refine ⟨asked, hacted.history, fun e he j hj hclient => ?_⟩
    have hserves := hk.serves j hj
    rcases hacted.askers e he _ hclient with hsame | hge
    -- each client belongs to one connection
    · obtain rfl := hk.distinct j i hj hi hsame
      exact ⟨(hacted.befores e he).serves hserves, data, staged, hbusiness⟩
    · exact absurd hserves.exist (Nat.not_lt.mpr hge)

/-- Beside a busy connection no client of another one writes or queries. -/
theorem IsBusy.quiet (hi : s.IsBusy i) (hs : s.Serves) (hstep : Step s m s') :
    ∃ asked, s'.core.stores.history = s.core.stores.history ++ asked ∧
      ∀ e ∈ asked, ∀ j, j < s.size → j ≠ i → e.question.client? = some (s.core.client j) →
        e.question.isAccess = false := by
  obtain ⟨asked, hhistory, haskers⟩ := hstep.askers hs
  refine ⟨asked, hhistory, fun e he j hj hij hclient => ?_⟩
  obtain ⟨-, data, staged, hbusiness⟩ := haskers e he j hj hclient
  exact hbusiness.no_access (hi.not_ready hs hij) (hi.journal_eq_nil hs hj hij) e he

/-! ## Steps -/

/-- A busy connection keeps the write lock until it is cleaned. -/
theorem IsBusy.step (hi : s.IsBusy i) (hs : s.Serves) (hstep : Step s m s')
    (hcleans : ¬ s.Cleans i m) :
    s'.IsBusy i ∧ s'.core.holder i = s.core.holder i ∧
      s'.core.locks.requests.Grants (s.core.holder i) .exclusive := by
  have hs' : s'.Serves := hs.step hstep
  have hbusy : s'.IsBusy i := by
    refine ⟨Nat.lt_of_lt_of_le hi.1 hstep.size_le, Or.inl ?_⟩
    exact hstep.writes_ne_nil hcleans (hi.writes hs)
  have hholder := hstep.holder hi.1
  exact ⟨hbusy, hholder, hholder ▸ hbusy.grants hs'⟩

/-- A cleaned connection is not busy. -/
theorem Step.not_busy_of_cleans (hstep : Step s m s') (hs : s.Serves) (hi : i < s.size)
    (hcleans : s.Cleans i m) : ¬ s'.IsBusy i := by
  have hempty : (s'.journal i).writes = [] := by
    change (s'.core.connection i).participant.journal.writes = []
    rw [hstep.core_of_cleans hcleans, Core.connection_clean_self hi]
    rfl
  rintro ⟨-, hwrites | hstaged⟩
  · exact hwrites hempty
  · exact hstaged (hstep.staged_of_cleans hs.kept hi hcleans)

/-- Committed data stay as they are unless a busy connection is committed.  Then all that its client
has staged is applied, and nothing is left of it. -/
theorem Step.commits (hstep : Step s m s') (hs : s.Serves) :
    s'.core.depot.committed = s.core.depot.committed ∨
    ∃ i x onePhase, s.IsBusy i ∧ m = .coordinate i (.commit x onePhase) ∧
      s.answer i (.commit x onePhase) = .ok none ∧
      s'.core.depot.committed = s.core.depot.committed.applyAll (s.core.staged i) ∧
      s'.core.staged i = [] := by
  cases hstep.asked hs.kept hs.orderly with
  | nothing hstores => exact Or.inl (congrArg (fun r => Depot.committed r.stores) hstores)
  | client hhistory happly => exact Or.inl (happly fun _ => False).committed
  | @own i asked data staged hi hacted hbusiness =>
    have hdata : s'.core.depot.committed = data := hacted.committed
    have hstaged : s'.core.staged i = staged := by
      rw [Core.staged, hstep.client hi]
      exact hacted.staged
    cases hbusiness with
    | @committed x onePhase _ hanswer hwrites haccess =>
      by_cases hnone : s.core.staged i = []
      · left
        rw [hdata, hnone]
        rfl
      · exact Or.inr ⟨i, x, onePhase, ⟨hi, Or.inr hnone⟩, rfl, hanswer, hdata, hstaged⟩
    | _ => exact Or.inl hdata

/-- A query is answered from committed data, and only if no other connection is busy. -/
theorem Step.answers (hstep : Step s m s') (hs : s.Serves) :
    ∃ asked, s'.core.stores.history = s.core.stores.history ++ asked ∧
      ∀ e ∈ asked, ∀ j text, j < s.size → e.question = .select (s.core.client j) text →
        (Backend.select e.before (s.core.client j) text).result =
          Depot.solve text e.before.committed ∧ ∀ i, s.IsBusy i → i = j := by
  obtain ⟨asked, hhistory, haskers⟩ := hstep.askers hs
  refine ⟨asked, hhistory, fun e he j text hj hquestion => ?_⟩
  obtain ⟨hserves, data, staged, hbusiness⟩ := haskers e he j hj (by rw [hquestion]; rfl)
  have hdoes := Depot.does_query (s := (e.before, [])) hserves Depot.rowsOf text
  refine ⟨(respond_of_does hdoes).1, ?_⟩
  intro i hi
  by_contra hij
  -- beside another busy connection the query would be no access
  have hnone := hbusiness.no_access (hi.not_ready hs fun heq => hij heq.symm)
    (hi.journal_eq_nil hs hj fun heq => hij heq.symm) e he
  rw [hquestion] at hnone
  contradiction

/-! ## Runs -/

/-- A connection stays, and has the same client. -/
theorem Leads.client {allowed : Schedule (Recorded Depot) → Move → Prop} (hrun : Leads allowed s t)
    (hi : i < s.size) : i < t.size ∧ t.core.client i = s.core.client i :=
  hrun.client_eq hi

/-- A connection that is not cleaned is busy if and only if a write of its client was accepted. -/
theorem Leads.busy_iff (hrun : Leads (fun u m => ¬ u.Cleans i m) s t) (hs : s.Serves)
    (hi : i < s.size) (hidle : ¬ s.IsBusy i) :
    ∃ since, t.core.stores.history = s.core.stores.history ++ since ∧
      (t.IsBusy i ↔ writesOf (s.core.client i) since ≠ []) := by
  induction hrun with
  | refl =>
    refine ⟨[], (List.append_nil _).symm, ?_⟩
    exact ⟨fun hbusy => absurd hbusy hidle, fun hne => absurd rfl hne⟩
  | @tail t u m hrun hcleans hstep ih =>
    obtain ⟨since, hsince, hbusy⟩ := ih
    obtain ⟨hlt, hclient⟩ := hrun.client hi
    have ht : t.Serves := hs.leads hrun
    have hu : u.Serves := ht.step hstep
    obtain ⟨asked, hasked, hwrites⟩ := hstep.writes_iff ht.kept ht.orderly hlt hcleans
    have hiff : ∀ {v : Schedule (Recorded Depot)}, v.Serves → i < v.size →
        (v.IsBusy i ↔ (v.journal i).writes ≠ []) :=
      fun hv hlt => ⟨fun hbusy => hbusy.writes hv, fun hne => ⟨hlt, Or.inl hne⟩⟩
    refine ⟨since ++ asked, by rw [hasked, hsince, List.append_assoc], ?_⟩
    -- the journal tells whether a connection is busy, and `Step.writes_iff` what becomes of it
    rw [hiff hu (Nat.lt_of_lt_of_le hlt hstep.size_le), hwrites, ← hiff ht hlt, hbusy, hclient,
      writesOf_append]
    simp only [ne_eq, List.append_eq_nil_iff, not_and_or]

/-! ## The whole statement -/

/-- Branches do not see each other. -/
structure Isolates (s : Schedule (Recorded Depot)) : Prop where
  /-- At most one connection is busy. -/
  single : ∀ i j, s.IsBusy i → s.IsBusy j → i = j
  /-- It has the write lock. -/
  locked : ∀ i, s.IsBusy i → s.core.locks.requests.Grants (s.core.holder i) .exclusive
  /-- It keeps the lock, and stays busy, until it is cleaned. -/
  kept : ∀ i m s', s.IsBusy i → Step s m s' → ¬ s.Cleans i m →
    s'.IsBusy i ∧ s'.core.holder i = s.core.holder i ∧
      s'.core.locks.requests.Grants (s.core.holder i) .exclusive
  /-- It is busy from its first accepted write on. -/
  begun : ∀ s₀ i, s₀.Serves → Leads (fun u m => ¬ u.Cleans i m) s₀ s → i < s₀.size →
    ¬ s₀.IsBusy i → ∃ since, s.core.stores.history = s₀.core.stores.history ++ since ∧
      (s.IsBusy i ↔ writesOf (s₀.core.client i) since ≠ [])
  /-- When it is cleaned, it is not busy any more, and nothing is committed. -/
  cleaned : ∀ i m s', i < s.size → Step s m s' → s.Cleans i m →
    ¬ s'.IsBusy i ∧ s'.core.depot.committed = s.core.depot.committed
  /-- As long as it is busy, the client of no other connection writes or queries. -/
  quiet : ∀ i m s', s.IsBusy i → Step s m s' →
    ∃ asked, s'.core.stores.history = s.core.stores.history ++ asked ∧
      ∀ e ∈ asked, ∀ j, j < s.size → j ≠ i → e.question.client? = some (s.core.client j) →
        e.question.isAccess = false
  /-- All that it has staged is committed at once, and nothing else is ever committed. -/
  commits : ∀ m s', Step s m s' → s'.core.depot.committed = s.core.depot.committed ∨
    ∃ i x onePhase, s.IsBusy i ∧ m = .coordinate i (.commit x onePhase) ∧
      s.answer i (.commit x onePhase) = .ok none ∧
      s'.core.depot.committed = s.core.depot.committed.applyAll (s.core.staged i) ∧
      s'.core.staged i = []
  /-- So a query sees all that the other connections have committed, and nothing that they have
  still to commit, for none of them is busy. -/
  answers : ∀ m s', Step s m s' →
    ∃ asked, s'.core.stores.history = s.core.stores.history ++ asked ∧
      ∀ e ∈ asked, ∀ j text, j < s.size → e.question = .select (s.core.client j) text →
        (Backend.select e.before (s.core.client j) text).result =
          Depot.solve text e.before.committed ∧ ∀ i, s.IsBusy i → i = j

/-- Branches do not see each other at any time of any run. -/
theorem isolates (hs : s.Serves) : s.Isolates where
  single := fun i j hi hj => hi.eq hj hs
  locked := fun i hi => hi.grants hs
  kept := fun i m s' hi hstep hcleans => hi.step hs hstep hcleans
  begun := fun s₀ i hs₀ hrun hi hidle => hrun.busy_iff hs₀ hi hidle
  cleaned := by
    intro i m s' hi hstep hcleans
    refine ⟨hstep.not_busy_of_cleans hs hi hcleans, ?_⟩
    rcases hstep.commits hs with hsame | ⟨j, x, onePhase, -, rfl, -⟩
    · exact hsame
    · exact hcleans.elim
  quiet := fun i m s' hi hstep => hi.quiet hs hstep
  commits := fun m s' hstep => hstep.commits hs
  answers := fun m s' hstep => hstep.answers hs

end

section

attribute [local instance] Engine.small

/-- One of two connections over a repository in memory writes. -/
theorem isolates_writing :
    ∃ s : Schedule (Recorded Depot), 1 < s.size ∧ s.IsBusy 0 ∧ s.Isolates := by
  obtain ⟨s, hs, hsize, hjournal⟩ : ∃ s, openStart.follow
      [.connect, .connect,
        .beginAccess 0 (.write (.addTriple ⟨"urn:s", "urn:p", "urn:o"⟩ "urn:g")), .carryOut 0] =
        some s ∧ s.size = 2 ∧ (s.journal 0).writes.isEmpty = false :=
    ⟨_, rfl, rfl, rfl⟩
  have hserves : s.Serves := serves_openStart.leads (leads_of_follow (fun _ _ _ => trivial) hs)
  refine ⟨s, by omega, ⟨by omega, Or.inl ?_⟩, isolates hserves⟩
  intro hempty
  rw [hempty] at hjournal
  contradiction

end

end GraphCommit.Schedule
