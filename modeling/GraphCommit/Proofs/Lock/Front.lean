import Mathlib.Data.List.Induction
import Mathlib.Data.List.TakeWhile
import GraphCommit.Proofs.Lock.Exclusion
import GraphCommit.Proofs.Lock.Overlap

/-!
# The front of the queue

The two questions that a call asks of the queue are put differently: a reader looks for a writer
before its own request, a writer looks at the first request only.  Together they grant a front part
of the queue (`free_iff_mem_granted`, `granted_isPrefix`): the first request alone if it is
exclusive, and otherwise the shared requests up to the first exclusive one.

So the first request is always granted, and nobody is granted anything while an earlier request
waits.  Requests stand in the order in which they arrived, which is read off the operations that
were done (`ArrivedAt`).  Since a request at the end changes nothing for those before it, a waiting
request can only become granted when another one is taken out, and then all waiting calls look at
the queue.
-/

namespace GraphCommit

namespace Lock

namespace Queue

variable {q : Queue} {r s : Request}

/-! ## The granted requests -/

/-- The granted requests are the first ones. -/
theorem granted_isPrefix (q : Queue) : q.granted <+: q := by
  cases q with
  | nil => exact List.prefix_rfl
  | cons r rest =>
    rw [granted]
    split
    · exact (List.prefix_cons_inj r).mpr List.nil_prefix
    · exact (List.prefix_cons_inj r).mpr (List.takeWhile_prefix _)

theorem mem_granted_of_head? (hhead : q.head? = some r) : r ∈ q.granted := by
  cases q with
  | nil => contradiction
  | cons first rest =>
    obtain rfl : first = r := Option.some.inj hhead
    rw [granted]
    split <;> exact List.mem_cons_self

/-- A reader may pass by readers only. -/
theorem freeToRead_iff (hq : q.IsSingle) (hr : r ∈ q) (hmode : r.mode = .shared) :
    q.freeToRead r.holder = true ↔ r ∈ q.takeWhile (fun s => s.mode == .shared) := by
  induction q with
  | nil => contradiction
  | cons first rest ih =>
    rcases List.mem_cons.mp hr with rfl | hrest
    · simp [freeToRead, hmode]
    · have hne : first.holder ≠ r.holder := (hq.holder_ne hrest).symm
      cases hfirst : first.mode with
      | exclusive => simp [freeToRead, hne, hfirst]
      | shared =>
        have hself : r ≠ first := fun heq => hne (congrArg Request.holder heq).symm
        simpa [freeToRead, hne, hfirst, hself] using ih hq.tail hrest

/-- The queue lets through exactly the granted requests. -/
theorem free_iff_mem_granted (hq : q.IsSingle) (hr : r ∈ q) :
    q.free r.holder r.mode = true ↔ r ∈ q.granted := by
  cases q with
  | nil => contradiction
  | cons first rest =>
    have hholder : r ∈ rest → first.holder ≠ r.holder := fun hrest => (hq.holder_ne hrest).symm
    have hself : r ∈ rest → r ≠ first :=
      fun hrest heq => hholder hrest (congrArg Request.holder heq).symm
    cases hfirst : first.mode with
    | exclusive =>
      -- nobody but the writer at the head is let through
      simp only [granted, hfirst, if_true, List.mem_singleton]
      rcases List.mem_cons.mp hr with rfl | hrest
      · simp [free, freeToWrite, hfirst]
      · cases hmode : r.mode <;>
          simp [free, freeToRead, freeToWrite, hfirst, hholder hrest, hself hrest]
    | shared =>
      simp only [granted, hfirst, reduceCtorEq, if_false]
      rcases List.mem_cons.mp hr with rfl | hrest
      · simp [free, freeToRead, hfirst]
      · cases hmode : r.mode with
        | exclusive =>
          have hnot : r ∉ rest.takeWhile (fun s => s.mode == .shared) := by
            intro hmem
            have hshared := List.mem_takeWhile_imp hmem
            simp [hmode] at hshared
          simp [free, freeToWrite, hholder hrest, hself hrest, hnot]
        | shared =>
          have hreads := freeToRead_iff hq.tail hrest hmode
          simp only [free, freeToRead, hholder hrest, hfirst, reduceCtorEq, if_false, hreads,
            List.mem_cons, hself hrest, false_or]

/-- Whatever stands before a granted request is granted. -/
theorem mem_granted_of_before (hq : q.IsSingle) {before later : List Request}
    (hparts : q = before ++ r :: later) (hr : r ∈ q.granted) (hs : s ∈ before) :
    s ∈ q.granted := by
  obtain ⟨rest, hrest⟩ := granted_isPrefix q
  rcases List.append_eq_append_iff.mp (hrest.trans hparts) with
    ⟨between, hbefore, -⟩ | ⟨between, hgranted, -⟩
  · -- then the request would stand before itself
    have htwice : r ∈ before := hbefore ▸ List.mem_append_left _ hr
    have hnodup : (before ++ r :: later).Nodup := hparts ▸ List.Nodup.of_map _ hq
    exact absurd rfl ((List.nodup_append.mp hnodup).2.2 r htwice r List.mem_cons_self)
  · rw [hgranted]
    exact List.mem_append_left _ hs

/-- A new request changes nothing for the others. -/
theorem mem_granted_enter {h : Holder} {mode : Mode} (hq : q.IsSingle) (hnew : q.holds h = false)
    (hr : r ∈ q) : r ∈ (q.enter h mode).granted ↔ r ∈ q.granted := by
  have hr' : r ∈ q.enter h mode := List.mem_append_left _ hr
  rw [← free_iff_mem_granted (hq.enter hnew mode) hr', free_enter hr, free_iff_mem_granted hq hr]

end Queue

end Lock

namespace LockManager

open Lock

variable {m m₀ : LockManager} {h : Holder} {mode : Mode} {op : Operation} {r s : Request}
  {ops : List Operation} {i j : Nat}

/-! ## One operation -/

/-- After these operations all waiting calls look at the queue. -/
def Notifies (m : LockManager) (op : Operation) : Prop := ∃ h, m.Releases h op

/-- What an operation makes of the queue: it takes the requests of one holder out, or it changes
nothing, or it enters a request of a holder that has none. -/
theorem requests_after (hm : m.Coherent) (hop : m.TakesTurns op) :
    (∃ h, m.Releases h op ∧ (m.after op).requests = m.requests.releaseAll h) ∨
    (m.after op).requests = m.requests ∨
    ∃ h mode, op = .ask h mode ∧ m.requests.holds h = false ∧
      (m.after op).requests = m.requests.enter h mode := by
  cases op with
  | register => exact Or.inr (Or.inl rfl)
  | ask h mode =>
    change _ ∨ (m.lock h mode).2.requests = _ ∨ _
    rcases lock_cases hm hop.2 mode with
      ⟨own, -, hlock⟩ | ⟨hholds, -, hlock⟩ | ⟨hholds, -, hlock⟩
    · exact Or.inr (Or.inl (by rw [hlock]))
    · exact Or.inr (Or.inr ⟨h, mode, rfl, hholds, congrArg (fun done => done.2.requests) hlock⟩)
    · exact Or.inr (Or.inr ⟨h, mode, rfl, hholds, congrArg (fun done => done.2.requests) hlock⟩)
  | unlockRead h =>
    change (∃ k, _ ∧ (m.unlockRead h).requests = _) ∨ (m.unlockRead h).requests = _ ∨ _
    rcases unlockRead_cases hm.single h with ⟨-, heq⟩ | ⟨hmem, heq⟩
    · exact Or.inr (Or.inl (by rw [heq]))
    · exact Or.inl ⟨h, ⟨rfl, hmem⟩, by rw [heq]; rfl⟩
  | unlockAll h => exact Or.inl ⟨h, rfl, rfl⟩
  | expire c =>
    refine Or.inl ⟨c.holder, ⟨rfl, (hm.entered c hop.2).1, hm.blocked c hop.2⟩, ?_⟩
    change (m.expire c).requests = _
    rw [expire_eq hm hop.2]
    rfl

/-- A request is granted exactly when no call waits for it. -/
theorem Coherent.mem_granted_iff (hm : m.Coherent) (hr : r ∈ m.requests) :
    r ∈ m.requests.granted ↔ m.IsQuiet r.holder := by
  rw [← Queue.free_iff_mem_granted hm.single hr]
  exact ⟨fun hfree => hm.quiet_of_grants ⟨hr, hfree⟩, hm.granted r hr⟩

/-- Who comes while somebody waits has to wait as well. -/
theorem Coherent.lock_behind (hm : m.Coherent) (hh : m.IsQuiet h)
    (hnew : m.requests.holds h = false) (hr : r ∈ m.requests) (hwaits : r ∉ m.requests.granted)
    (mode : Mode) : (m.lock h mode).1 = .waiting m.tickets := by
  rcases lock_cases hm hh mode with ⟨own, hgrants, -⟩ | ⟨-, hfree, -⟩ | ⟨-, -, hlock⟩
  · exact absurd rfl (Queue.not_holds hnew hgrants.1)
  · have hsingle := hm.single.enter hnew mode
    have hlast : (⟨h, mode⟩ : Request) ∈ m.requests.enter h mode :=
      List.mem_append_right _ List.mem_cons_self
    have hgranted := (Queue.free_iff_mem_granted hsingle hlast).mp hfree
    have hbefore := Queue.mem_granted_of_before hsingle rfl hgranted hr
    exact absurd ((Queue.mem_granted_enter hm.single hnew hr).mp hbefore) hwaits
  · rw [hlock]

/-- A waiting request becomes granted only when another one is taken out. -/
theorem Coherent.releases_of_granted (hm : m.Coherent) (hop : m.TakesTurns op)
    (hr : r ∈ m.requests) (hwaits : r ∉ m.requests.granted)
    (hgranted : r ∈ (m.after op).requests.granted) :
    m.Notifies op ∧ ∃ s ∈ m.requests, s ∉ (m.after op).requests := by
  rcases requests_after hm hop with
    ⟨h, hreleases, hrequests⟩ | hrequests | ⟨h, mode, -, hnew, hrequests⟩
  · refine ⟨⟨h, hreleases⟩, ?_⟩
    by_contra hall
    have hsame : m.requests.releaseAll h = m.requests := by
      refine Queue.releaseAll_eq_self fun s hs heq => hall ⟨s, hs, ?_⟩
      rw [hrequests, Queue.mem_releaseAll]
      exact fun hmem => hmem.2 heq
    rw [hrequests, hsame] at hgranted
    exact absurd hgranted hwaits
  · rw [hrequests] at hgranted
    exact absurd hgranted hwaits
  · rw [hrequests, Queue.mem_granted_enter hm.single hnew hr] at hgranted
    exact absurd hgranted hwaits

/-! ## Many operations -/

/-- The lock after operations that are done one after another. -/
def afterAll (m : LockManager) (ops : List Operation) : LockManager := ops.foldl after m

/-- Each operation takes turns where it is done. -/
def AllTakeTurns (m : LockManager) : List Operation → Prop
  | [] => True
  | op :: ops => m.TakesTurns op ∧ (m.after op).AllTakeTurns ops

instance : (m : LockManager) → (ops : List Operation) → Decidable (m.AllTakeTurns ops)
  | _, [] => .isTrue trivial
  | m, op :: ops =>
    have : Decidable ((m.after op).AllTakeTurns ops) := instDecidableAllTakeTurns (m.after op) ops
    inferInstanceAs (Decidable (m.TakesTurns op ∧ (m.after op).AllTakeTurns ops))

/-- A request was entered with the operation of this number, and stands in the queue since. -/
structure ArrivedAt (m₀ : LockManager) (ops : List Operation) (r : Request) (i : Nat) : Prop where
  asked : ops[i]? = some (.ask r.holder r.mode)
  before : (m₀.afterAll (ops.take i)).requests.holds r.holder = false
  since : ∀ j, i < j → j ≤ ops.length → r ∈ (m₀.afterAll (ops.take j)).requests

@[simp] theorem afterAll_concat (m : LockManager) (ops : List Operation) (op : Operation) :
    m.afterAll (ops ++ [op]) = (m.afterAll ops).after op := by
  simp [afterAll]

theorem allTakeTurns_concat :
    m.AllTakeTurns (ops ++ [op]) ↔ m.AllTakeTurns ops ∧ (m.afterAll ops).TakesTurns op := by
  induction ops generalizing m with
  | nil => simp [AllTakeTurns, afterAll]
  | cons first rest ih => simp only [List.cons_append, AllTakeTurns, ih, and_assoc]; rfl

theorem AllTakeTurns.coherent (hops : m₀.AllTakeTurns ops) (hm : m₀.Coherent) :
    (m₀.afterAll ops).Coherent := by
  induction ops generalizing m₀ with
  | nil => exact hm
  | cons first rest ih => exact ih hops.2 (after_coherent hm hops.1)

theorem ArrivedAt.lt (hr : m₀.ArrivedAt ops r i) : i < ops.length :=
  (List.getElem?_eq_some_iff.mp hr.asked).1

/-- A request has arrived once. -/
theorem ArrivedAt.unique (hi : m₀.ArrivedAt ops r i) (hj : m₀.ArrivedAt ops r j) : i = j := by
  rcases Nat.lt_trichotomy i j with hlt | heq | hlt
  · exact absurd rfl (Queue.not_holds hj.before (hi.since j hlt (Nat.le_of_lt hj.lt)))
  · exact heq
  · exact absurd rfl (Queue.not_holds hi.before (hj.since i hlt (Nat.le_of_lt hi.lt)))

/-- The last operation makes no difference to what was before it. -/
theorem afterAll_take (m : LockManager) (op : Operation) (hi : i ≤ ops.length) :
    m.afterAll ((ops ++ [op]).take i) = m.afterAll (ops.take i) := by
  rw [List.take_append_of_le_length hi]

theorem afterAll_take_last (m : LockManager) (op : Operation) (hj : ops.length < j) :
    m.afterAll ((ops ++ [op]).take j) = (m.afterAll ops).after op := by
  rw [List.take_of_length_le (by rw [List.length_append]; exact hj), afterAll_concat]

/-- A request that stays has arrived when it had. -/
theorem ArrivedAt.concat (hr : m₀.ArrivedAt ops r i)
    (hstays : r ∈ ((m₀.afterAll ops).after op).requests) : m₀.ArrivedAt (ops ++ [op]) r i where
  asked := by
    rw [List.getElem?_append_left hr.lt]
    exact hr.asked
  before := by
    rw [afterAll_take _ _ (Nat.le_of_lt hr.lt)]
    exact hr.before
  since := by
    intro j hij hj
    rcases Nat.lt_or_ge ops.length j with hlast | hold
    · rw [afterAll_take_last _ _ hlast]
      exact hstays
    · rw [afterAll_take _ _ hold]
      exact hr.since j hij hold

/-- A request that was there before did not arrive with the last operation. -/
theorem ArrivedAt.of_concat (hr : m₀.ArrivedAt (ops ++ [op]) r i)
    (hold : r ∈ (m₀.afterAll ops).requests) : m₀.ArrivedAt ops r i := by
  have hi : i < ops.length := by
    have hlt := hr.lt
    rw [List.length_append, List.length_singleton] at hlt
    by_contra hge
    have hlast : i = ops.length := by omega
    have hbefore := hr.before
    rw [hlast, afterAll_take _ _ (Nat.le_refl _), List.take_length] at hbefore
    exact absurd rfl (Queue.not_holds hbefore hold)
  refine ⟨?_, ?_, fun j hij hj => ?_⟩
  · have hasked := hr.asked
    rwa [List.getElem?_append_left hi] at hasked
  · have hbefore := hr.before
    rwa [afterAll_take _ _ (Nat.le_of_lt hi)] at hbefore
  · have hsince := hr.since j hij (by rw [List.length_append]; omega)
    rwa [afterAll_take _ _ hj] at hsince

/-- A request that was not there arrived with the last operation. -/
theorem arrivedAt_last {r : Request} (hop : op = .ask r.holder r.mode)
    (hnew : (m₀.afterAll ops).requests.holds r.holder = false)
    (henters : r ∈ ((m₀.afterAll ops).after op).requests) :
    m₀.ArrivedAt (ops ++ [op]) r ops.length where
  asked := by simp [hop]
  before := by
    rw [afterAll_take _ _ (Nat.le_refl _), List.take_length]
    exact hnew
  since := by
    intro j hj hle
    rw [afterAll_take_last _ _ hj]
    exact henters

/-- Every request has arrived, and the requests stand in the order of their arrival. -/
structure InOrder (m₀ : LockManager) (ops : List Operation) : Prop where
  arrived : ∀ r ∈ (m₀.afterAll ops).requests, ∃ i, m₀.ArrivedAt ops r i
  ordered : (m₀.afterAll ops).requests.Pairwise fun r s =>
    ∀ i j, m₀.ArrivedAt ops r i → m₀.ArrivedAt ops s j → i < j

/-- Requests that stay keep their order. -/
theorem InOrder.of_sublist (hops : m₀.InOrder ops)
    (hsub : List.Sublist ((m₀.afterAll ops).after op).requests (m₀.afterAll ops).requests) :
    m₀.InOrder (ops ++ [op]) where
  arrived := by
    intro r hr
    rw [afterAll_concat] at hr
    obtain ⟨i, hi⟩ := hops.arrived r (hsub.subset hr)
    exact ⟨i, hi.concat hr⟩
  ordered := by
    rw [afterAll_concat]
    refine (hops.ordered.sublist hsub).imp_of_mem fun {r s} hr hs hlt i j hi hj => ?_
    exact hlt i j (hi.of_concat (hsub.subset hr)) (hj.of_concat (hsub.subset hs))

/-- A new request stands behind the others. -/
theorem InOrder.of_enter (hops : m₀.InOrder ops) (hop : op = .ask h mode)
    (hnew : (m₀.afterAll ops).requests.holds h = false)
    (henter : ((m₀.afterAll ops).after op).requests = (m₀.afterAll ops).requests.enter h mode) :
    m₀.InOrder (ops ++ [op]) := by
  have hlast : (⟨h, mode⟩ : Request) ∈ ((m₀.afterAll ops).after op).requests := by
    rw [henter]
    exact List.mem_append_right _ List.mem_cons_self
  have harrived := arrivedAt_last (r := ⟨h, mode⟩) hop hnew hlast
  have hstays : ∀ r ∈ (m₀.afterAll ops).requests, r ∈ ((m₀.afterAll ops).after op).requests := by
    intro r hr
    rw [henter]
    exact List.mem_append_left _ hr
  refine ⟨fun r hr => ?_, ?_⟩
  · rw [afterAll_concat, henter] at hr
    rcases List.mem_append.mp hr with hold | hr
    · obtain ⟨i, hi⟩ := hops.arrived r hold
      exact ⟨i, hi.concat (hstays r hold)⟩
    · rw [List.mem_singleton.mp hr]
      exact ⟨_, harrived⟩
  · rw [afterAll_concat, henter]
    refine List.pairwise_append.mpr ⟨?_, List.pairwise_singleton _ _, fun r hr s hs i j hi hj => ?_⟩
    · refine hops.ordered.imp_of_mem fun {r s} hr hs hlt i j hi hj => ?_
      exact hlt i j (hi.of_concat hr) (hj.of_concat hs)
    · rw [List.mem_singleton.mp hs] at hj
      rw [hj.unique harrived]
      exact (hi.of_concat hr).lt

theorem InOrder.concat (hops : m₀.InOrder ops) (hm : (m₀.afterAll ops).Coherent)
    (hop : (m₀.afterAll ops).TakesTurns op) : m₀.InOrder (ops ++ [op]) := by
  rcases requests_after hm hop with
    ⟨h, -, hrequests⟩ | hrequests | ⟨h, mode, hasks, hnew, hrequests⟩
  · refine hops.of_sublist ?_
    rw [hrequests]
    exact Queue.releaseAll_sublist _ h
  · refine hops.of_sublist ?_
    rw [hrequests]
  · exact hops.of_enter hasks hnew hrequests

theorem AllTakeTurns.inOrder (hnew : m₀.IsNew) (hops : m₀.AllTakeTurns ops) :
    m₀.InOrder ops := by
  -- by induction on the last operation, since a request arrives at the end
  induction ops using List.reverseRecOn with
  | nil =>
    have hnone : (m₀.afterAll []).requests = [] := by
      rw [IsNew] at hnew
      rw [hnew]
      rfl
    refine ⟨fun r hr => ?_, ?_⟩
    · rw [hnone] at hr
      contradiction
    · rw [hnone]
      exact List.Pairwise.nil
  | append_singleton ops op ih =>
    obtain ⟨hfirst, hlast⟩ := allTakeTurns_concat.mp hops
    exact (ih hfirst).concat (hfirst.coherent hnew.coherent) hlast

/-! ## The whole statement -/

/-- What the queue looks like after some operations, and what the next one can make of it. -/
structure ServesFront (m₀ : LockManager) (ops : List Operation) : Prop where
  /-- A holder has at most one request. -/
  single : (m₀.afterAll ops).requests.IsSingle
  /-- The requests stand in the order in which they arrived. -/
  inOrder : m₀.InOrder ops
  /-- The queue lets through the first request alone if it is exclusive, otherwise the shared ones
  up to the first exclusive one. -/
  granted : ∀ r ∈ (m₀.afterAll ops).requests,
    ((m₀.afterAll ops).requests.free r.holder r.mode = true ↔
      r ∈ (m₀.afterAll ops).requests.granted)
  /-- Calls wait for the other requests, and for no granted one. -/
  waits : ∀ r ∈ (m₀.afterAll ops).requests,
    (r ∈ (m₀.afterAll ops).requests.granted ↔ (m₀.afterAll ops).IsQuiet r.holder)
  /-- The first request is granted, so somebody can always go on. -/
  first : ∀ r, (m₀.afterAll ops).requests.head? = some r →
    r ∈ (m₀.afterAll ops).requests.granted
  /-- No request is granted while an earlier one waits. -/
  earlier : ∀ before later r, (m₀.afterAll ops).requests = before ++ r :: later →
    r ∈ (m₀.afterAll ops).requests.granted → ∀ s ∈ before, s ∈ (m₀.afterAll ops).requests.granted
  /-- A holder that comes while a request waits has to wait, for whatever it asks. -/
  behind : ∀ h mode, (m₀.afterAll ops).IsFree h → (m₀.afterAll ops).requests.holds h = false →
    ∀ r ∈ (m₀.afterAll ops).requests, r ∉ (m₀.afterAll ops).requests.granted →
    ((m₀.afterAll ops).lock h mode).1 = .waiting (m₀.afterAll ops).tickets
  /-- An operation by which a waiting request is granted takes a request out and notifies the
  waiting calls, and the one that waits for the request returns. -/
  wakes : ∀ op, (m₀.afterAll ops).TakesTurns op → ∀ r ∈ (m₀.afterAll ops).requests,
    r ∉ (m₀.afterAll ops).requests.granted → r ∈ ((m₀.afterAll ops).after op).requests.granted →
    (m₀.afterAll ops).Notifies op ∧
      (∃ s ∈ (m₀.afterAll ops).requests, s ∉ ((m₀.afterAll ops).after op).requests) ∧
      ((m₀.afterAll ops).after op).IsQuiet r.holder

/-- However the calls of the holders follow each other, the queue is served from its front. -/
theorem serves_front (hnew : m₀.IsNew) (hops : m₀.AllTakeTurns ops) : m₀.ServesFront ops := by
  have hm := hops.coherent hnew.coherent
  refine ⟨hm.single, hops.inOrder hnew, fun r hr => Queue.free_iff_mem_granted hm.single hr,
    fun r hr => hm.mem_granted_iff hr, fun r hr => Queue.mem_granted_of_head? hr, ?_, ?_, ?_⟩
  · intro before later r hparts hr s hs
    exact Queue.mem_granted_of_before hm.single hparts hr hs
  · intro h mode hh hholds r hr hwaits
    exact hm.lock_behind hh.2 hholds hr hwaits mode
  · intro op hop r hr hwaits hgranted
    obtain ⟨hnotifies, hremoved⟩ := hm.releases_of_granted hop hr hwaits hgranted
    have hstays := (Queue.granted_isPrefix _).subset hgranted
    exact ⟨hnotifies, hremoved, ((after_coherent hm hop).mem_granted_iff hstays).mp hgranted⟩

/-- Two readers, a writer and a third reader: the two are granted, the writer waits for them, and
the third reader waits behind the writer. -/
theorem serves_front_mixed :
    ∃ m : LockManager, ∃ ops : List Operation, m.ServesFront ops ∧
      (m.afterAll ops).requests.length = 4 ∧ (m.afterAll ops).requests.granted.length = 2 := by
  refine ⟨{ }, [.register, .register, .register, .register, .ask ⟨1⟩ .shared, .ask ⟨2⟩ .shared,
    .ask ⟨3⟩ .exclusive, .ask ⟨4⟩ .shared], serves_front rfl (by decide), by decide, by decide⟩

end LockManager

end GraphCommit
