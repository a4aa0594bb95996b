import Mathlib.Data.List.Perm.Subperm
import GraphCommit.Proofs.Lock.Result

/-!
# Calls that fail leave no trace

A call for the lock fails if it is refused or gives up.  When all operations of the calls that have
failed by the end of a run are left out (`successes`), a run is left that is possible as well and in
which no call fails.  It ends in the same queue, and what had been let through by some place of the
run has been let through by the same place of what is left of it.

The two runs are compared place by place (`Follows`).  While a call waits that will give up, its
request stands in the queue of the whole run only, maybe before the requests of others.  So the
second queue is the first one without the requests of such calls, and whoever is let through by the
first one is let through by the second one, perhaps earlier.
-/

namespace GraphCommit

namespace LockManager

open Lock

variable {m m' m₀ last : LockManager} {h k : Holder} {mode : Mode} {op : Operation}
  {ops : List Operation} {ticket : Nat}

/-- Whether an operation is part of a call that has failed by the end of a run: the call is made by
it, or its time limit is over. -/
def failsBy (m last : LockManager) : Operation → Bool
  | .ask h mode => last.hasFailed (m.lock h mode).1
  | .expire c => last.hasFailed (.waiting c.ticket)
  | _ => false

/-- The operations of a run without those of calls that have failed by its end. -/
def successes (m last : LockManager) : List Operation → List Operation
  | [] => []
  | op :: ops =>
    let rest := (m.after op).successes last ops
    if m.failsBy last op then rest else op :: rest

theorem successes_cons_of_fails (hop : m.failsBy last op = true) (ops : List Operation) :
    m.successes last (op :: ops) = (m.after op).successes last ops := by
  simp [successes, hop]

theorem successes_cons (hop : m.failsBy last op = false) (ops : List Operation) :
    m.successes last (op :: ops) = op :: (m.after op).successes last ops := by
  simp [successes, hop]

theorem afterAll_append (m : LockManager) (before later : List Operation) :
    m.afterAll (before ++ later) = (m.afterAll before).afterAll later :=
  List.foldl_append

theorem afterAll_cons (m : LockManager) (op : Operation) (ops : List Operation) :
    m.afterAll (op :: ops) = (m.after op).afterAll ops := rfl

theorem allTakeTurns_append {before later : List Operation} :
    m.AllTakeTurns (before ++ later) ↔
      m.AllTakeTurns before ∧ (m.afterAll before).AllTakeTurns later := by
  induction before generalizing m with
  | nil => simp [AllTakeTurns, afterAll]
  | cons op before ih =>
    simp only [List.cons_append, AllTakeTurns, ih, and_assoc]
    rfl

theorem successes_append (m last : LockManager) (before later : List Operation) :
    m.successes last (before ++ later) =
      m.successes last before ++ (m.afterAll before).successes last later := by
  induction before generalizing m with
  | nil => rfl
  | cons op before ih =>
    rw [List.cons_append, afterAll_cons]
    cases hop : m.failsBy last op with
    | true => rw [successes_cons_of_fails hop, successes_cons_of_fails hop, ih]
    | false => rw [successes_cons hop, successes_cons hop, ih, List.cons_append]

/-! ## What the end of a run tells -/

/-- The calls that have given up by the end of a run are those that have given up already, some of
those that wait, and some that are still to come. -/
structure Foretells (last m : LockManager) : Prop where
  coherent : last.Coherent
  gaveUp : ∀ t ∈ m.gaveUp, t ∈ last.gaveUp
  waits : ∀ t ∈ last.gaveUp, t < m.tickets → t ∈ m.gaveUp ∨ m.isWaiting t = true

theorem foretells_afterAll (hm : m.Coherent) (hops : m.AllTakeTurns ops) :
    Foretells (m.afterAll ops) m where
  coherent := hops.coherent hm
  gaveUp := fun t ht =>
    (returned_afterAll hm hops (hm.gaveUp t ht).1 (hm.waits_not_of_gaveUp ht)).2.mpr ht
  waits := by
    intro t ht hissued
    cases hwaits : m.isWaiting t with
    | true => exact Or.inr rfl
    | false => exact Or.inl ((returned_afterAll hm hops hissued hwaits).2.mp ht)

/-- A call of the holder waits that will have given up by the end. -/
def IsDoomed (m last : LockManager) (h : Holder) : Prop :=
  ∃ c ∈ m.waiting, c.holder = h ∧ c.ticket ∈ last.gaveUp

theorem IsQuiet.not_doomed (hh : m.IsQuiet h) : ¬ m.IsDoomed last h := by
  rintro ⟨c, hc, heq, -⟩
  exact hh c hc heq

/-- Nothing but that its own call gives up ends the wait of such a holder. -/
theorem IsDoomed.after (hm : m.Coherent) (hop : m.TakesTurns op)
    (hlast : Foretells last (m.after op)) (hdoomed : m.IsDoomed last h) :
    (m.after op).IsDoomed last h ∨ ∃ c ∈ m.waiting, op = .expire c ∧ c.holder = h := by
  obtain ⟨c, hc, rfl, hgives⟩ := hdoomed
  have hissued := Nat.lt_of_lt_of_le (hm.issued c hc) (tickets_after hm hop)
  rcases hlast.waits _ hgives hissued with hgave | hwaits
  · right
    rcases (mem_gaveUp_after hm hop).mp hgave with hold | ⟨d, hd, heq, hticket⟩
    · exact absurd rfl ((hm.gaveUp _ hold).2 c hc)
    · exact ⟨c, hc, List.inj_on_of_nodup_map hm.tickets hd hc hticket ▸ heq, rfl⟩
  · obtain ⟨d, hd, hticket⟩ := isWaiting_iff.mp hwaits
    exact Or.inl ⟨c, eq_of_ticket_after hm hc hd hticket ▸ hd, rfl, hgives⟩

/-- A holder whose call has just begun to wait and will give up has made a call that fails. -/
theorem IsDoomed.of_after (hm : m.Coherent) (hop : m.TakesTurns op) (hlast : last.Coherent)
    (hdoomed : (m.after op).IsDoomed last h) :
    m.IsDoomed last h ∨ op.holder? = some h ∧ m.failsBy last op = true := by
  obtain ⟨c, hc, rfl, hgives⟩ := hdoomed
  rcases waiting_after_cases hm hop hc with hold | ⟨rfl, hticket, hlock⟩
  · exact Or.inl ⟨c, hold, rfl, hgives⟩
  · refine Or.inr ⟨rfl, ?_⟩
    change last.hasFailed (m.lock c.holder c.mode).1 = true
    rw [hlock]
    exact hlast.hasFailed_waiting.mpr (hticket ▸ hgives)

/-! ## The two runs side by side -/

/-- The second queue is the first one without the requests of some holders. -/
structure Thins (gone : Holder → Prop) (q q' : Queue) : Prop where
  inOrder : List.Sublist q' q
  kept : ∀ r ∈ q, r ∈ q' ∨ gone r.holder
  left : ∀ r ∈ q', ¬ gone r.holder

section

variable {gone gone' : Holder → Prop} {q q' : Queue}

theorem Thins.releaseAll (hq : Thins gone q q') (h : Holder) :
    Thins gone (q.releaseAll h) (q'.releaseAll h) where
  inOrder := hq.inOrder.filter _
  kept := by
    intro r hr
    obtain ⟨hold, hne⟩ := (Queue.mem_releaseAll _ _ _).mp hr
    exact (hq.kept r hold).imp (fun hmem => (Queue.mem_releaseAll _ _ _).mpr ⟨hmem, hne⟩) id
  left := fun r hr => hq.left r ((Queue.mem_releaseAll _ _ _).mp hr).1

theorem Thins.enter (hq : Thins gone q q') (hh : ¬ gone h) (mode : Mode) :
    Thins gone (q.enter h mode) (q'.enter h mode) where
  inOrder := hq.inOrder.append_right _
  kept := by
    intro r hr
    rcases List.mem_append.mp hr with hold | hnew
    · exact (hq.kept r hold).imp (List.mem_append_left _) id
    · exact Or.inl (List.mem_append_right _ hnew)
  left := by
    intro r hr
    rcases List.mem_append.mp hr with hold | hnew
    · exact hq.left r hold
    · rw [List.mem_singleton.mp hnew]
      exact hh

/-- A holder that is to be left out enters the first queue only. -/
theorem Thins.enter_first (hq : Thins gone q q') (hholds : q.holds h = false)
    (hgone : ∀ k, gone' k ↔ gone k ∨ k = h) (mode : Mode) : Thins gone' (q.enter h mode) q' where
  inOrder := hq.inOrder.trans (List.sublist_append_left _ _)
  kept := by
    intro r hr
    rw [hgone]
    rcases List.mem_append.mp hr with hold | hnew
    · exact (hq.kept r hold).imp id Or.inl
    · rw [List.mem_singleton.mp hnew]
      exact Or.inr (Or.inr rfl)
  left := by
    intro r hr hleft
    rcases (hgone r.holder).mp hleft with hbefore | hown
    · exact hq.left r hr hbefore
    · exact Queue.not_holds hholds (hq.inOrder.subset hr) hown

/-- A holder that is left out leaves the first queue, which alone it stood in. -/
theorem Thins.leave_first (hq : Thins gone q q') (hh : gone h)
    (hgone : ∀ k, k ≠ h → (gone' k ↔ gone k)) : Thins gone' (q.releaseAll h) q' := by
  have hother : ∀ r ∈ q', r.holder ≠ h := fun r hr heq => hq.left r hr (heq ▸ hh)
  refine ⟨?_, fun r hr => ?_, fun r hr hleft => ?_⟩
  · rw [← Queue.releaseAll_eq_self hother]
    exact hq.inOrder.filter _
  · obtain ⟨hold, hne⟩ := (Queue.mem_releaseAll _ _ _).mp hr
    exact (hq.kept r hold).imp id (hgone _ hne).mpr
  · exact hq.left r hr ((hgone _ (hother r hr)).mp hleft)

/-- When nobody is left out, the queues are the same. -/
theorem Thins.eq (hq : Thins gone q q') (hsingle : q.IsSingle) (hnone : ∀ h, ¬ gone h) :
    q' = q := by
  have hall : ∀ r ∈ q, r ∈ q' := fun r hr => (hq.kept r hr).resolve_right (hnone _)
  have hnodup : q.Nodup := List.Nodup.of_map _ hsingle
  exact hq.inOrder.eq_of_length_le (hnodup.subperm hall).length_le

end

/-- The second lock is as if those calls had never been made that wait in the first one and will
have given up by the end. -/
structure Follows (last m m' : LockManager) : Prop where
  first : m.Coherent
  second : m'.Coherent
  thins : Thins (m.IsDoomed last) m.requests m'.requests
  gaveUp : m'.gaveUp = []
  registered : m'.registered = m.registered
  timeout : m'.timeout = m.timeout

/-- Whoever is let through in the whole run is let through in the other one. -/
theorem Follows.grants (hf : Follows last m m') (hgrants : m.requests.Grants h mode) :
    m'.requests.Grants h mode := by
  rcases hf.thins.kept _ hgrants.1 with hmem | hdoomed
  · exact Queue.Grants.sublist hf.first.single hf.thins.inOrder hmem hgrants.2
  · exact absurd hdoomed (hf.first.quiet_of_grants hgrants).not_doomed

/-- A holder without a call under way has none in the other run either. -/
theorem Follows.quiet (hf : Follows last m m') (hh : m.IsQuiet h) : m'.IsQuiet h := by
  rintro c hc rfl
  have hmem := hf.thins.inOrder.subset (hf.second.entered c hc).2
  have hgrants : m.requests.Grants c.holder c.mode := ⟨hmem, hf.first.granted _ hmem hh⟩
  exact hf.second.quiet_of_grants (hf.grants hgrants) c hc rfl

theorem Follows.isFree (hf : Follows last m m') (hh : m.IsFree h) : m'.IsFree h :=
  ⟨hf.registered ▸ hh.1, hf.quiet hh.2⟩

theorem Follows.holds (hf : Follows last m m') (hholds : m.requests.holds h = false) :
    m'.requests.holds h = false := by
  by_contra hstands
  obtain ⟨r, hr, heq⟩ := (Queue.holds_iff _ _).mp (by simpa using hstands)
  exact Queue.not_holds hholds (hf.thins.inOrder.subset hr) heq

/-- A request that no waiting call belongs to stands in both queues or in none. -/
theorem Follows.mem_iff (hf : Follows last m m') {r : Request} (hr : m.IsQuiet r.holder) :
    r ∈ m'.requests ↔ r ∈ m.requests :=
  ⟨fun hmem => hf.thins.inOrder.subset hmem,
    fun hmem => (hf.thins.kept r hmem).resolve_right hr.not_doomed⟩

/-- A call whose time limit is over fails. -/
theorem fails_of_expire (hm : m.Coherent) (hop : m.TakesTurns op)
    (hlast : Foretells last (m.after op)) {c : Call} (hexpire : op = .expire c) :
    c.ticket ∈ last.gaveUp ∧ m.failsBy last op = true := by
  subst hexpire
  have hgave : c.ticket ∈ last.gaveUp :=
    hlast.gaveUp _ ((mem_gaveUp_after hm hop).mpr (Or.inr ⟨c, hop.2, rfl, rfl⟩))
  exact ⟨hgave, hlast.coherent.hasFailed_waiting.mpr hgave⟩

/-! ## Operations that stay -/

theorem Follows.turns (hf : Follows last m m') (hop : m.TakesTurns op)
    (hlast : Foretells last (m.after op)) (hkeep : m.failsBy last op = false) :
    m'.TakesTurns op := by
  cases op with
  | register => trivial
  | ask h mode => exact hf.isFree hop
  | unlockRead h => exact hf.isFree hop
  | unlockAll h => exact hf.isFree hop
  | expire c => simp [(fails_of_expire hf.first hop hlast rfl).2] at hkeep

/-- Two locks change their queues in the same way. -/
inductive Matches (m m' n n' : LockManager) : Prop
  | same (hn : n.requests = m.requests) (hn' : n'.requests = m'.requests)
  | releases (h : Holder) (hn : n.requests = m.requests.releaseAll h)
      (hn' : n'.requests = m'.requests.releaseAll h)
  | enters (h : Holder) (mode : Mode) (hquiet : m.IsQuiet h)
      (hn : n.requests = m.requests.enter h mode) (hn' : n'.requests = m'.requests.enter h mode)

theorem Follows.matches_ask (hf : Follows last m m') (hop : m.TakesTurns (.ask h mode)) :
    Matches m m' (m.after (.ask h mode)) (m'.after (.ask h mode)) := by
  change Matches m m' (m.lock h mode).2 (m'.lock h mode).2
  rcases lock_cases hf.first hop.2 mode with
    ⟨own, hgrants, hlock⟩ | ⟨hholds, -, hlock⟩ | ⟨hholds, -, hlock⟩
  · have hlock' := lock_of_grants hf.second.single (hf.grants hgrants) mode
    exact .same (by rw [hlock]) (by rw [hlock'])
  -- a holder that enters the one queue enters the other one, whether it is let through or not
  · have henters := lock_enters hf.second (hf.quiet hop.2) (hf.holds hholds) mode
    exact .enters h mode hop.2 (by rw [hlock]) henters.1
  · have henters := lock_enters hf.second (hf.quiet hop.2) (hf.holds hholds) mode
    exact .enters h mode hop.2 (by rw [hlock]) henters.1

theorem Follows.matches_unlockRead (hf : Follows last m m') (hh : m.IsQuiet h) :
    Matches m m' (m.unlockRead h) (m'.unlockRead h) := by
  have hsame := hf.mem_iff (r := ⟨h, .shared⟩) hh
  rcases unlockRead_cases hf.first.single h with ⟨hnone, heq⟩ | ⟨hreads, heq⟩
  · rcases unlockRead_cases hf.second.single h with ⟨-, heq'⟩ | ⟨hreads', -⟩
    · exact .same (by rw [heq]) (by rw [heq'])
    · exact absurd (hsame.mp hreads') hnone
  · rcases unlockRead_cases hf.second.single h with ⟨hnone', -⟩ | ⟨-, heq'⟩
    · exact absurd (hsame.mpr hreads) hnone'
    · refine .releases h ?_ ?_
      · rw [heq]
        rfl
      · rw [heq']
        rfl

theorem Follows.matches_keep (hf : Follows last m m') (hop : m.TakesTurns op)
    (hlast : Foretells last (m.after op)) (hkeep : m.failsBy last op = false) :
    Matches m m' (m.after op) (m'.after op) := by
  cases op with
  | register => exact .same rfl rfl
  | ask h mode => exact hf.matches_ask hop
  | unlockRead h => exact hf.matches_unlockRead hop.2
  | unlockAll h => exact .releases h rfl rfl
  | expire c => simp [(fails_of_expire hf.first hop hlast rfl).2] at hkeep

/-- The calls that will give up wait before and after an operation that stays. -/
theorem doomed_keep_iff (hm : m.Coherent) (hop : m.TakesTurns op)
    (hlast : Foretells last (m.after op)) (hkeep : m.failsBy last op = false) (h : Holder) :
    (m.after op).IsDoomed last h ↔ m.IsDoomed last h := by
  constructor
  · intro hdoomed
    rcases hdoomed.of_after hm hop hlast.coherent with hold | ⟨-, hfails⟩
    · exact hold
    · simp [hkeep] at hfails
  · intro hdoomed
    rcases hdoomed.after hm hop hlast with hstill | ⟨c, -, hexpire, -⟩
    · exact hstill
    · simp [(fails_of_expire hm hop hlast hexpire).2] at hkeep

theorem registered_after (hm : m.Coherent) (hop : m.TakesTurns op) :
    (m.after op).registered = m.registered + if op = .register then 1 else 0 :=
  (after_beside_queue hm hop).2.1

/-- An operation that stays is done in both runs. -/
theorem Follows.keep (hf : Follows last m m') (hop : m.TakesTurns op)
    (hlast : Foretells last (m.after op)) (hkeep : m.failsBy last op = false) :
    Follows last (m.after op) (m'.after op) := by
  have hop' := hf.turns hop hlast hkeep
  have hdoomed := doomed_keep_iff hf.first hop hlast hkeep
  have hmatches := hf.matches_keep hop hlast hkeep
  refine ⟨after_coherent hf.first hop, after_coherent hf.second hop', ?_, ?_, ?_, ?_⟩
  · rw [show (m.after op).IsDoomed last = m.IsDoomed last from funext fun h => propext (hdoomed h)]
    cases hmatches with
    | same hn hn' =>
      rw [hn, hn']
      exact hf.thins
    | releases h hn hn' =>
      rw [hn, hn']
      exact hf.thins.releaseAll h
    | enters h mode hquiet hn hn' =>
      rw [hn, hn']
      exact hf.thins.enter hquiet.not_doomed mode
  · refine List.eq_nil_iff_forall_not_mem.mpr fun t ht => ?_
    rcases (mem_gaveUp_after hf.second hop').mp ht with hold | ⟨c, -, hexpire, -⟩
    · simp [hf.gaveUp] at hold
    · simp [(fails_of_expire hf.first hop hlast hexpire).2] at hkeep
  · rw [registered_after hf.first hop, registered_after hf.second hop', hf.registered]
  · rw [timeout_after hf.first hop, timeout_after hf.second hop', hf.timeout]

/-! ## Operations that are left out -/

/-- What an operation that is left out makes of the first queue: nothing, or it enters the request
of a call that will give up, or takes it out. -/
theorem fails_cases (hm : m.Coherent) (hop : m.TakesTurns op)
    (hlast : Foretells last (m.after op)) (hfails : m.failsBy last op = true) :
    m.after op = m ∨
    (∃ h mode, op = .ask h mode ∧ m.requests.holds h = false ∧
      (m.after op).requests = m.requests.enter h mode ∧ (m.after op).IsDoomed last h) ∨
    (∃ c ∈ m.waiting, op = .expire c ∧ (m.after op).requests = m.requests.releaseAll c.holder ∧
      m.IsDoomed last c.holder) := by
  cases op with
  | register => simp [failsBy] at hfails
  | unlockRead h => simp [failsBy] at hfails
  | unlockAll h => simp [failsBy] at hfails
  | ask h mode =>
    change last.hasFailed (m.lock h mode).1 = true at hfails
    change (m.lock h mode).2 = m ∨ (∃ k n, _ ∧ _ ∧ (m.lock h mode).2.requests = _ ∧
      (m.lock h mode).2.IsDoomed last k) ∨ _
    rcases lock_cases hm hop.2 mode with ⟨own, -, hlock⟩ | ⟨-, -, hlock⟩ | ⟨hholds, -, hlock⟩
    · exact Or.inl (by rw [hlock])
    · simp [hlock, hasFailed, result?] at hfails
    · rw [hlock] at hfails ⊢
      have hgives := hlast.coherent.hasFailed_waiting.mp hfails
      exact Or.inr (Or.inl ⟨h, mode, rfl, hholds, rfl,
        _, List.mem_append_right _ List.mem_cons_self, rfl, hgives⟩)
  | expire c =>
    have hgives := (fails_of_expire hm hop hlast rfl).1
    exact Or.inr (Or.inr ⟨c, hop.2, rfl, (gives_up_of_expire hm hop.2).withdrawn,
      c, hop.2, rfl, hgives⟩)

/-- An operation that is left out is done in the first run only. -/
theorem Follows.drop (hf : Follows last m m') (hop : m.TakesTurns op)
    (hlast : Foretells last (m.after op)) (hfails : m.failsBy last op = true) :
    Follows last (m.after op) m' := by
  have hregistered : (m.after op).registered = m.registered := by
    rw [registered_after hf.first hop, if_neg, Nat.add_zero]
    rintro rfl
    simp [failsBy] at hfails
  have hfirst := after_coherent hf.first hop
  have htimeout := timeout_after hf.first hop
  suffices hthins : Thins ((m.after op).IsDoomed last) (m.after op).requests m'.requests from
    ⟨hfirst, hf.second, hthins, hf.gaveUp, hf.registered.trans hregistered.symm,
      hf.timeout.trans htimeout.symm⟩
  have hafter : ∀ k, (m.after op).IsDoomed last k → m.IsDoomed last k ∨ op.holder? = some k :=
    fun k hk => (hk.of_after hf.first hop hlast.coherent).imp id And.left
  -- it changes nothing, it is a call that will give up, or it is the giving up of one
  rcases fails_cases hf.first hop hlast hfails with
    heq | ⟨h, mode, rfl, hholds, henters, hdoomed⟩ | ⟨c, hc, rfl, hleaves, hdoomed⟩
  · rw [heq]
    exact hf.thins
  · rw [henters]
    refine hf.thins.enter_first hholds (fun k => ⟨fun hk => ?_, ?_⟩) mode
    · exact (hafter k hk).imp id fun hown => (Option.some.inj hown).symm
    · rintro (hbefore | rfl)
      · rcases hbefore.after hf.first hop hlast with hstill | ⟨c, -, hexpire, -⟩
        · exact hstill
        · simp at hexpire
      · exact hdoomed
  · rw [hleaves]
    refine hf.thins.leave_first hdoomed fun k hne => ⟨fun hk => ?_, fun hk => ?_⟩
    · exact (hafter k hk).resolve_right fun hown => hne (Option.some.inj hown).symm
    · rcases hk.after hf.first hop hlast with hstill | ⟨d, -, hexpire, hholder⟩
      · exact hstill
      · cases hexpire
        exact absurd hholder.symm hne

/-! ## Whole runs -/

theorem IsNew.follows (hm : m.IsNew) (last : LockManager) : Follows last m m := by
  have hcoherent := hm.coherent
  rw [IsNew] at hm
  refine ⟨hcoherent, hcoherent, ⟨List.Sublist.refl _, fun r hr => Or.inl hr, fun r hr => ?_⟩,
    by rw [hm], rfl, rfl⟩
  rw [hm] at hr
  contradiction

/-- What is left of the beginning of a run is possible and follows it. -/
theorem Follows.run {before later : List Operation} (hf : Follows last m m')
    (hops : m.AllTakeTurns (before ++ later)) (hlast : last = m.afterAll (before ++ later)) :
    m'.AllTakeTurns (m.successes last before) ∧
      Follows last (m.afterAll before) (m'.afterAll (m.successes last before)) := by
  induction before generalizing m m' with
  | nil => exact ⟨trivial, hf⟩
  | cons op before ih =>
    obtain ⟨hop, hrest⟩ := hops
    have hforetells : Foretells last (m.after op) :=
      hlast ▸ foretells_afterAll (after_coherent hf.first hop) hrest
    cases hfails : m.failsBy last op with
    | true =>
      rw [successes_cons_of_fails hfails]
      exact ih (hf.drop hop hforetells hfails) hrest hlast
    | false =>
      rw [successes_cons hfails]
      obtain ⟨hturns, hfollows⟩ := ih (hf.keep hop hforetells hfails) hrest hlast
      exact ⟨⟨hf.turns hop hforetells hfails, hturns⟩, hfollows⟩

/-- At the end of the run nobody is left who will give up, so the queues are the same. -/
theorem Follows.requests_eq (hf : Follows last last m') : m'.requests = last.requests := by
  refine hf.thins.eq hf.first.single ?_
  rintro h ⟨c, hc, -, hgave⟩
  exact (hf.first.gaveUp _ hgave).2 c hc rfl

/-! ## Calls in both runs -/

/-- What the call that is made after some operations has come to when some more have been done. -/
def resultOf? (m₀ : LockManager) (before : List Operation) (h : Holder) (mode : Mode)
    (during : List Operation) : Option (Except Fault Unit) :=
  (m₀.afterAll (before ++ .ask h mode :: during)).result? ((m₀.afterAll before).lock h mode).1

/-- A call that is let through at once is let through at once in the other run. -/
theorem Follows.lock_granted (hf : Follows last m m') (hop : m.TakesTurns (.ask h mode))
    (hlast : Foretells last (m.after (.ask h mode)))
    (hgranted : (m.lock h mode).1 = .granted) : (m'.lock h mode).1 = .granted := by
  rcases lock_cases hf.first hop.2 mode with
    ⟨own, hgrants, hlock⟩ | ⟨hholds, hfree, hlock⟩ | ⟨-, -, hlock⟩
  · rw [lock_of_grants hf.second.single (hf.grants hgrants) mode]
    rwa [hlock] at hgranted
  · have hkeep : m.failsBy last (.ask h mode) = false := by
      simp [failsBy, hgranted, hasFailed, result?]
    have hnext : Follows last (m.lock h mode).2 (m'.lock h mode).2 := hf.keep hop hlast hkeep
    rw [hlock] at hnext
    have hgrants := hnext.grants ⟨List.mem_append_right _ List.mem_cons_self, hfree⟩
    obtain ⟨hrequests, hanswer⟩ :=
      lock_enters hf.second (hf.quiet hop.2) (hf.holds hholds) mode
    refine hanswer.resolve_right fun hwaits => ?_
    rw [hrequests] at hgrants
    exact absurd (hgrants.2.symm.trans hwaits.1) (by simp)
  · simp [hlock] at hgranted

/-- A call that has to wait enters its request in the other run as well, and waits or not. -/
theorem Follows.lock_waiting (hf : Follows last m m') (hop : m.TakesTurns (.ask h mode))
    (hwaits : (m.lock h mode).1 = .waiting ticket) :
    ticket = m.tickets ∧ ⟨ticket, h, mode, true⟩ ∈ (m.lock h mode).2.waiting ∧
      ((m'.lock h mode).1 = .granted ∨
        (m'.lock h mode).1 = .waiting m'.tickets ∧
          (m'.lock h mode).2.waiting = m'.waiting ++ [⟨m'.tickets, h, mode, true⟩]) := by
  rcases lock_cases hf.first hop.2 mode with ⟨own, -, hlock⟩ | ⟨-, -, hlock⟩ | ⟨hholds, -, hlock⟩
  · rw [hlock] at hwaits
    split at hwaits <;> contradiction
  · simp [hlock] at hwaits
  · obtain rfl : m.tickets = ticket := by simpa [hlock] using hwaits
    rw [hlock]
    have henters := lock_enters hf.second (hf.quiet hop.2) (hf.holds hholds) mode
    exact ⟨rfl, List.mem_append_right _ List.mem_cons_self, henters.2.imp id And.right⟩

/-- A call that stays is not refused in the other run. -/
theorem Follows.lock_ne_refused (hf : Follows last m m') (hop : m.TakesTurns (.ask h mode))
    (hkeep : m.failsBy last (.ask h mode) = false) : (m'.lock h mode).1 ≠ .refused := by
  rcases lock_cases hf.first hop.2 mode with
    ⟨own, hgrants, hlock⟩ | ⟨hholds, -, -⟩ | ⟨hholds, -, -⟩
  · have hlock' := lock_of_grants hf.second.single (hf.grants hgrants) mode
    have hsame : (m'.lock h mode).1 = (m.lock h mode).1 := by rw [hlock, hlock']
    intro hrefused
    simp [failsBy, ← hsame, hrefused, hasFailed, result?] at hkeep
  all_goals
    have henters := lock_enters hf.second (hf.quiet hop.2) (hf.holds hholds) mode
    rcases henters.2 with hgranted | ⟨-, hwaiting, -⟩
    · simp [hgranted]
    · simp [hwaiting]

/-- Whoever waits under the ticket in the second run waits with the call in the first one. -/
def WaitsWith (m m' : LockManager) (ticket : Nat) (c : Call) : Prop :=
  ∀ d ∈ m'.waiting, d.ticket = ticket → d.holder = c.holder ∧ c ∈ m.waiting

/-- A call goes on waiting in the first run as long as it does in the second one. -/
theorem Follows.waitsWith {n n' : LockManager} {c : Call} (hm : m.Coherent)
    (hop : m.TakesTurns op) (hn : n = m.after op) (hnext : Follows last n n')
    (hold : ∀ d ∈ n'.waiting, d.ticket = ticket → d ∈ m'.waiting)
    (hwaits : WaitsWith m m' ticket c) : WaitsWith n n' ticket c := by
  intro d hd hticket
  obtain ⟨hholder, hc⟩ := hwaits d (hold d hd hticket) hticket
  refine ⟨hholder, hn ▸ stays_of_not_quiet hm hop hc fun hquiet => ?_⟩
  have hquiet' : n'.IsQuiet c.holder := hnext.quiet (hn ▸ hquiet)
  exact hquiet' d hd hholder

theorem Follows.waitsWith_run {before later : List Operation} {c : Call}
    (hf : Follows last m m') (hops : m.AllTakeTurns (before ++ later))
    (hlast : last = m.afterAll (before ++ later)) (hissued : ticket < m'.tickets)
    (hwaits : WaitsWith m m' ticket c) :
    WaitsWith (m.afterAll before) (m'.afterAll (m.successes last before)) ticket c := by
  induction before generalizing m m' with
  | nil => exact hwaits
  | cons op before ih =>
    obtain ⟨hop, hrest⟩ := hops
    have hforetells : Foretells last (m.after op) :=
      hlast ▸ foretells_afterAll (after_coherent hf.first hop) hrest
    cases hfails : m.failsBy last op with
    | true =>
      rw [successes_cons_of_fails hfails]
      have hnext := hf.drop hop hforetells hfails
      exact ih hnext hrest hlast hissued
        (hnext.waitsWith hf.first hop rfl (fun d hd _ => hd) hwaits)
    | false =>
      rw [successes_cons hfails]
      have hnext := hf.keep hop hforetells hfails
      have hop' := hf.turns hop hforetells hfails
      have hissued' := Nat.lt_of_lt_of_le hissued (tickets_after hf.second hop')
      refine ih hnext hrest hlast hissued' (hnext.waitsWith hf.first hop rfl ?_ hwaits)
      intro d hd hticket
      rcases waiting_after op hd with hold | ⟨hnew, -⟩
      · exact hold
      · omega

/-- A call that was let through by some place of the run stays, and was let through by the same
place of what is left. -/
theorem Follows.returns {during later : List Operation} (hf : Follows last m m')
    (hops : m.AllTakeTurns (.ask h mode :: (during ++ later)))
    (hlast : last = m.afterAll (.ask h mode :: (during ++ later)))
    (hok : (m.afterAll (.ask h mode :: during)).result? (m.lock h mode).1 = some (.ok ())) :
    m.failsBy last (.ask h mode) = false ∧
      (m'.afterAll (.ask h mode :: (m.after (.ask h mode)).successes last during)).result?
        (m'.lock h mode).1 = some (.ok ()) := by
  obtain ⟨hop, hrest⟩ := hops
  have hnext := after_coherent hf.first hop
  have hforetells : Foretells last (m.after (.ask h mode)) :=
    hlast ▸ foretells_afterAll hnext hrest
  obtain ⟨hduring, hlater⟩ := allTakeTurns_append.mp hrest
  have hplace := hduring.coherent hnext
  change ((m.after (.ask h mode)).afterAll during).result? _ = _ at hok
  cases hanswer : (m.lock h mode).1 with
  | granted =>
    refine ⟨by simp [failsBy, hanswer, hasFailed, result?], ?_⟩
    rw [hf.lock_granted hop hforetells hanswer]
    rfl
  | refused =>
    rw [hanswer] at hok
    simp [result?] at hok
  | waiting ticket =>
    obtain ⟨-, hcall, hother⟩ := hf.lock_waiting hop hanswer
    rw [hanswer] at hok
    obtain ⟨hstays, hreturned⟩ := hplace.result?_eq_ok_iff.mp hok
    -- what has returned without a fault has no fault at the end
    have hkeep : m.failsBy last (.ask h mode) = false := by
      have hissued : ticket < ((m.after (.ask h mode)).afterAll during).tickets :=
        Nat.lt_of_lt_of_le (hnext.issued _ hcall) (tickets_afterAll hnext hduring)
      rw [afterAll_cons, afterAll_append] at hlast
      have hnever := (returned_afterAll hplace hlater hissued hreturned).2.not.mpr hstays
      rw [← hlast, ← hforetells.coherent.hasFailed_waiting, ← hanswer] at hnever
      exact Bool.eq_false_iff.mpr hnever
    refine ⟨hkeep, ?_⟩
    rcases hother with hgranted | ⟨hwaiting, hcalls⟩
    · rw [hgranted]
      rfl
    have hboth := hf.keep hop hforetells hkeep
    have hnew : ⟨m'.tickets, h, mode, true⟩ ∈ (m'.after (.ask h mode)).waiting := by
      change _ ∈ (m'.lock h mode).2.waiting
      rw [hcalls]
      exact List.mem_append_right _ List.mem_cons_self
    have hwaits : WaitsWith (m.after (.ask h mode)) (m'.after (.ask h mode)) m'.tickets
        ⟨ticket, h, mode, true⟩ := by
      intro d hd hticket
      rw [List.inj_on_of_nodup_map hboth.second.tickets hd hnew hticket]
      exact ⟨rfl, hcall⟩
    have hend := (hboth.run hrest hlast).2
    have hwaits' := hboth.waitsWith_run hrest hlast (hboth.second.issued _ hnew) hwaits
    rw [hwaiting, afterAll_cons, hend.second.result?_eq_ok_iff, hend.gaveUp]
    refine ⟨by simp, Bool.eq_false_iff.mpr fun hstill => ?_⟩
    obtain ⟨d, hd, hticket⟩ := isWaiting_iff.mp hstill
    have hfirst := isWaiting_of_mem (hwaits' d hd hticket).2
    exact absurd (hfirst.symm.trans hreturned) (by simp)

/-- Nothing is left out of what is left, since no call of it fails. -/
theorem Follows.successes_eq {last' : LockManager} (hf : Follows last m m')
    (hops : m.AllTakeTurns ops) (hlast : last = m.afterAll ops) (hcoherent : last'.Coherent)
    (hnone : last'.gaveUp = []) :
    m'.successes last' (m.successes last ops) = m.successes last ops := by
  induction ops generalizing m m' with
  | nil => rfl
  | cons op ops ih =>
    obtain ⟨hop, hrest⟩ := hops
    have hforetells : Foretells last (m.after op) :=
      hlast ▸ foretells_afterAll (after_coherent hf.first hop) hrest
    cases hfails : m.failsBy last op with
    | true =>
      rw [successes_cons_of_fails hfails]
      exact ih (hf.drop hop hforetells hfails) hrest hlast
    | false =>
      have hnever : ∀ t, last'.hasFailed (.waiting t) = false := by
        intro t
        rw [Bool.eq_false_iff, Ne, hcoherent.hasFailed_waiting, hnone]
        exact List.not_mem_nil
      -- nobody gives up in the second run, and who is refused there was refused in the first
      have hkeep : m'.failsBy last' op = false := by
        cases op with
        | ask h mode =>
          have hrefused := hf.lock_ne_refused hop hfails
          change last'.hasFailed (m'.lock h mode).1 = false
          cases hanswer : (m'.lock h mode).1 with
          | granted => rfl
          | refused => exact absurd hanswer hrefused
          | waiting t => exact hnever t
        | expire c => exact hnever c.ticket
        | register => rfl
        | unlockRead h => rfl
        | unlockAll h => rfl
      rw [successes_cons hfails, successes_cons hkeep,
        ih (hf.keep hop hforetells hfails) hrest hlast]

/-! ## Calls with a fault -/

theorem timeout_afterAll (hm : m.Coherent) (hops : m.AllTakeTurns ops) :
    (m.afterAll ops).timeout = m.timeout := by
  induction ops generalizing m with
  | nil => rfl
  | cons op ops ih =>
    exact (ih (after_coherent hm hops.1) hops.2).trans (timeout_after hm hops.1)

/-- A call that has come to a fault was refused and changed nothing, or it waited and gave up. -/
theorem fault_cases {during : List Operation} {f : Fault} (hm : m.Coherent)
    (hops : m.AllTakeTurns (.ask h mode :: during))
    (hfault : (m.afterAll (.ask h mode :: during)).result? (m.lock h mode).1 = some (.error f)) :
    (f = .lockUpgrade ∧ mode = .exclusive ∧ m.requests.Grants h .shared ∧
      m.after (.ask h mode) = m) ∨
    ∃ limit before op later, f = .lockTimeout limit ∧ m.timeout = some limit ∧
      during = before ++ op :: later ∧
      (m.afterAll (.ask h mode :: before)).GivesUp op h mode := by
  obtain ⟨hop, hduring⟩ := hops
  have hnext := after_coherent hm hop
  have hlast := hduring.coherent hnext
  change ((m.after (.ask h mode)).afterAll during).result? _ = _ at hfault
  rcases lock_cases hm hop.2 mode with ⟨own, hgrants, hlock⟩ | ⟨-, -, hlock⟩ | ⟨-, -, hlock⟩
  · left
    rw [hlock] at hfault
    by_cases hupgrade : own = .shared ∧ mode = .exclusive
    · obtain ⟨rfl, rfl⟩ := hupgrade
      have hf : f = .lockUpgrade := by simpa [result?] using hfault.symm
      exact ⟨hf, rfl, hgrants, congrArg Prod.snd hlock⟩
    · simp [hupgrade, result?] at hfault
  · simp [hlock, result?] at hfault
  · right
    rw [hlock] at hfault
    have hcall : ⟨m.tickets, h, mode, true⟩ ∈ (m.after (.ask h mode)).waiting := by
      change _ ∈ (m.lock h mode).2.waiting
      rw [hlock]
      exact List.mem_append_right _ List.mem_cons_self
    have hgave : m.tickets ∈ ((m.after (.ask h mode)).afterAll during).gaveUp := by
      rw [← hlast.hasFailed_waiting, hasFailed, hfault]
    obtain ⟨before, op, later, rfl, hgives⟩ := gives_up_in_run hnext hduring hcall hgave
    -- a time limit is over only if there is one, and it is the same all the time
    obtain ⟨hbefore, hturns, -⟩ := allTakeTurns_append.mp hduring
    obtain ⟨c, -, hexpire, -⟩ := hgives.expires
    subst hexpire
    obtain ⟨limit, hlimit⟩ := Option.isSome_iff_exists.mp hturns.1
    have hsame : m.timeout = some limit := by
      rw [← hlimit, timeout_afterAll hnext hbefore, timeout_after hm hop]
    refine ⟨limit, before, .expire c, later, ?_, hsame, rfl, hgives⟩
    rw [hlast.result?_waiting, if_pos hgave, timeout_afterAll hnext hduring,
      timeout_after hm hop, hsame] at hfault
    simpa using hfault.symm

/-- Whether a holder waits can be seen in the queue. -/
theorem Coherent.quiet_iff (hm : m.Coherent) :
    m.IsQuiet h ↔ ∀ mode, ⟨h, mode⟩ ∈ m.requests → m.requests.free h mode = true := by
  constructor
  · intro hquiet mode hmem
    exact hm.granted _ hmem hquiet
  · rintro hfree c hc rfl
    have hblocked : m.requests.free c.holder c.mode = false := hm.blocked c hc
    exact absurd ((hfree c.mode (hm.entered c hc).2).symm.trans hblocked) (by simp)

/-! ## The whole statement -/

/-- What is left of the beginning of a run when the calls are left out that have failed by the end
of the run. -/
def remaining (m₀ : LockManager) (ops before : List Operation) : List Operation :=
  m₀.successes (m₀.afterAll ops) before

/-- What a run is like without the calls that have failed by its end. -/
structure LeavesNoTrace (m₀ : LockManager) (ops : List Operation) : Prop where
  /-- Each operation that is left can be done, and the calls of no holder overlap. -/
  possible : m₀.AllTakeTurns (m₀.remaining ops ops)
  /-- No call of what is left fails. -/
  succeeds : m₀.remaining (m₀.remaining ops ops) (m₀.remaining ops ops) = m₀.remaining ops ops
  /-- The queue at the end is the same. -/
  queue : (m₀.afterAll (m₀.remaining ops ops)).requests = (m₀.afterAll ops).requests
  /-- The same holders wait at the end. -/
  waits : ∀ h, (m₀.afterAll (m₀.remaining ops ops)).IsQuiet h ↔ (m₀.afterAll ops).IsQuiet h
  /-- A call that was let through by some place of the run is left, and was let through by the same
  place of what is left. -/
  returns : ∀ before h mode during later, ops = before ++ .ask h mode :: (during ++ later) →
    m₀.resultOf? before h mode during = some (.ok ()) →
    ∃ rest, m₀.remaining ops (before ++ .ask h mode :: during) =
        m₀.remaining ops before ++ .ask h mode :: rest ∧
      m₀.resultOf? (m₀.remaining ops before) h mode rest = some (.ok ())
  /-- A call fails only if it asks for the write lock while its holder has the read lock, and then
  it changes nothing, or if there is a time limit, its request is not let through when the limit is
  over, and the request leaves the queue. -/
  faults : ∀ before h mode during later f, ops = before ++ .ask h mode :: (during ++ later) →
    m₀.resultOf? before h mode during = some (.error f) →
    (f = .lockUpgrade ∧ mode = .exclusive ∧ (m₀.afterAll before).requests.Grants h .shared ∧
      (m₀.afterAll before).after (.ask h mode) = m₀.afterAll before) ∨
    ∃ limit waited op others, f = .lockTimeout limit ∧ m₀.timeout = some limit ∧
      during = waited ++ op :: others ∧
      (m₀.afterAll (before ++ .ask h mode :: waited)).GivesUp op h mode

/-- However the calls of the holders follow each other, those that fail leave no trace. -/
theorem failures_leave_no_trace (hnew : m₀.IsNew) (hops : m₀.AllTakeTurns ops) :
    m₀.LeavesNoTrace ops := by
  have hstart := hnew.follows (m₀.afterAll ops)
  have hall : m₀.AllTakeTurns (ops ++ []) := by simpa using hops
  -- the induction is in `Follows.run`: the second run is what is left of the first one
  have hwhole : m₀.AllTakeTurns (m₀.remaining ops ops) ∧
      Follows (m₀.afterAll ops) (m₀.afterAll ops) (m₀.afterAll (m₀.remaining ops ops)) :=
    hstart.run hall (by simp)
  obtain ⟨hpossible, hend⟩ := hwhole
  refine ⟨hpossible, ?_, hend.requests_eq, fun h => ?_, ?_, ?_⟩
  · exact hstart.successes_eq hops rfl hend.second hend.gaveUp
  · rw [hend.second.quiet_iff, hend.first.quiet_iff, hend.requests_eq]
  · intro before h mode during later hparts hok
    refine ⟨((m₀.afterAll before).after (.ask h mode)).successes (m₀.afterAll ops) during, ?_⟩
    subst hparts
    obtain ⟨hbefore, hrest⟩ := allTakeTurns_append.mp hops
    have hplace := (hstart.run hops rfl).2
    rw [resultOf?, afterAll_append] at hok
    obtain ⟨hkeep, hok'⟩ := hplace.returns hrest (afterAll_append ..) hok
    constructor
    · rw [remaining, successes_append, successes_cons hkeep]
      rfl
    · rw [resultOf?, afterAll_append]
      exact hok'
  · rintro before h mode during later f rfl hfault
    obtain ⟨hbefore, hrest⟩ := allTakeTurns_append.mp hops
    have hm := hbefore.coherent hnew.coherent
    have hcall : (m₀.afterAll before).AllTakeTurns (.ask h mode :: during) :=
      ⟨hrest.1, (allTakeTurns_append.mp hrest.2).1⟩
    rw [resultOf?, afterAll_append] at hfault
    -- a call fails as soon as it is made, or when its time is over
    rcases fault_cases hm hcall hfault with
      hrefused | ⟨limit, waited, op, others, hf, hlimit, hparts, hgives⟩
    · exact Or.inl hrefused
    · rw [timeout_afterAll hnew.coherent hbefore] at hlimit
      refine Or.inr ⟨limit, waited, op, others, hf, hlimit, hparts, ?_⟩
      rw [afterAll_append]
      exact hgives

/-- A reader, a writer that gives up, a second reader behind the writer, and a refusal: without the
two calls that fail, the second reader does not even wait. -/
theorem failures_leave_no_trace_mixed :
    ∃ m : LockManager, ∃ ops : List Operation, m.LeavesNoTrace ops ∧
      (m.afterAll ops).gaveUp = [0] ∧
      m.remaining ops ops = [.register, .register, .register, .ask ⟨1⟩ .shared,
        .ask ⟨3⟩ .shared] ∧
      m.resultOf? [.register, .register, .register, .ask ⟨1⟩ .shared, .ask ⟨2⟩ .exclusive] ⟨3⟩
        .shared [] = none := by
  refine ⟨{ timeout := some ⟨5⟩ }, [.register, .register, .register, .ask ⟨1⟩ .shared,
    .ask ⟨2⟩ .exclusive, .ask ⟨3⟩ .shared, .ask ⟨1⟩ .exclusive, .expire ⟨0, ⟨2⟩, .exclusive, true⟩],
    failures_leave_no_trace rfl (by decide), by decide, by decide, by decide⟩

end LockManager

end GraphCommit
