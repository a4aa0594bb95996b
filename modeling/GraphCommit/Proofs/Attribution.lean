import GraphCommit.Proofs.Order
import GraphCommit.Proofs.Store.History

/-!
# On whose behalf the stores are asked

A step of a schedule over a depot asks the stores nothing, or for a new client, or it acts on behalf
of one connection (`Asked`).  In the last case `Business` says what it asked and what has become of
the committed data and of the changes that the client of this connection has staged: a write, a
query, a derivation, a commit, one that failed, or something that drops what is staged.

So connections never meet in the depot: each has a client of its own, of the main repository, and a
connection with an empty journal has staged nothing (`Core.Kept`).  Transactions may fail; a branch
whose transaction fails is not committed, and nothing changes.  The main repository stays open, for
its flushes succeed.
-/

namespace GraphCommit

open Recorded

variable [Engine]

/-! ## Commits -/

/-- A client of the main repository is committed and then has staged nothing, unless the
transaction fails. -/
theorem acted_onStores {k : ClientId} {r : Recorded Depot} (number : Nat)
    (hk : r.stores.Serves k.number) (hflushes : r.stores.Flushes)
    (hsucceeds : r.stores.refusal? k.number = none) (strategy : Strategy) (journalSize : Nat) :
    ∃ t asked, strategy.onStores r k journalSize = (.ok (), t) ∧
      Acted number k r t asked (r.stores.committed.applyAll (r.stores.client k.number).staged) [] ∧
      ∀ e ∈ asked, e.question.isAccess = false := by
  obtain ⟨hcommit, hcommitted⟩ := acted_act (a := .commit) number hk.serving
    (Depot.does_commit (s := (r.stores, [])) hk hsucceeds)
  have honly : ∀ (before : Depot) (a : Action) (answered : Bool), (∀ w, a ≠ .write w) →
      ∀ e ∈ [(⟨before, .act k a, answered⟩ : Entry Depot)], e.question.isAccess = false := by
    intro before a answered ha e he
    rw [List.mem_singleton.mp he]
    exact Question.isAccess_act ha
  unfold Strategy.onStores
  generalize Backend.act r k .commit = response at hcommit hcommitted ⊢
  obtain ⟨result, t, records⟩ := response
  obtain rfl : result = .ok () := hcommit
  cases strategy with
  | plain => exact ⟨t, _, rfl, hcommitted, honly _ _ _ (by simp)⟩
  | flushing =>
    -- a branch without writes is not flushed
    by_cases hsize : 0 < journalSize
    · obtain ⟨hflush, hflushed⟩ := acted_act (a := .flush) number hcommitted.leaves.serving
        (Depot.does_flush (s := (t.stores, [])) (hcommitted.leaves.serves hk)
          ((hcommitted.leaves.keepsFlushes hflushes).unflushed? _))
      have hdata : t.stores.committed = _ := hcommitted.committed
      have hstaged : (t.stores.client k.number).staged = [] := hcommitted.staged
      have hboth := hcommitted.trans hflushed
      dsimp only at hboth
      rw [hdata, hstaged] at hboth
      refine ⟨_, _, ?_, hboth, ?_⟩
      · simp only [if_pos hsize, hflush]
        rfl
      · intro e he
        rcases List.mem_append.mp he with he | he
        · exact honly _ _ _ (by simp) e he
        · exact honly _ _ _ (by simp) e he
    · simp only [if_neg hsize]
      exact ⟨t, _, rfl, hcommitted, honly _ _ _ (by simp)⟩

/-- If the transaction fails, nothing is committed, what is staged stays staged, and nothing is
flushed. -/
theorem acted_onStores_refused {k : ClientId} {r : Recorded Depot} {reason : String} (number : Nat)
    (hk : r.stores.Serves k.number) (hfails : r.stores.refusal? k.number = some reason)
    (strategy : Strategy) (journalSize : Nat) :
    ∃ t asked, strategy.onStores r k journalSize = (.error (.commit reason), t) ∧
      Acted number k r t asked r.stores.committed (r.stores.client k.number).staged ∧
      ∀ e ∈ asked, e.question.isAccess = false := by
  obtain ⟨hcommit, hrefused⟩ := acted_act (a := .commit) number hk.serving
    (Depot.does_commit_refused (s := (r.stores, [])) hk hfails)
  unfold Strategy.onStores
  generalize Backend.act r k .commit = response at hcommit hrefused ⊢
  obtain ⟨result, t, records⟩ := response
  obtain rfl : result = .error (.commit reason) := hcommit
  refine ⟨t, _, rfl, hrefused, fun e he => ?_⟩
  rw [List.mem_singleton.mp he]
  exact Question.isAccess_act (by simp)

namespace Core

variable {k : Core (Recorded Depot)} {i j : Nat}

def depot (k : Core (Recorded Depot)) : Depot := k.stores.stores

def client (k : Core (Recorded Depot)) (i : Nat) : ClientId := (k.connection i).client

/-- The changes that the client of a connection has staged. -/
def staged (k : Core (Recorded Depot)) (i : Nat) : List Staged :=
  (k.depot.client (k.client i).number).staged

/-- The main repository is open and each connection has a client of its own, which has staged
nothing as long as the journal is empty. -/
structure Kept (k : Core (Recorded Depot)) : Prop where
  serving : k.depot.Serving
  flushes : k.depot.Flushes
  serves : ∀ i, i < k.size → k.depot.Serves (k.client i).number
  distinct : ∀ i j, i < k.size → j < k.size → k.client i = k.client j → i = j
  unstaged : ∀ i, i < k.size → (k.journal i).writes = [] → k.staged i = []

end Core

namespace Schedule

variable {s s' : Schedule (Recorded Depot)} {m : Move} {i : Nat}

/-- Whether a move drops what the client of a connection has staged. -/
def Discards (s : Schedule (Recorded Depot)) (i : Nat) (m : Move) : Prop :=
  s.Cleans i m ∨ m = .destroy i ∨
    ∃ x, m = .coordinate i (.rollback x) ∧ s.answer i (.rollback x) = .ok none

/-- What a step did on behalf of a connection: the questions that it asked, and the committed data
and the changes that the client of the connection has staged after it. -/
inductive Business (s : Schedule (Recorded Depot)) (i : Nat) :
    Move → List (Entry Depot) → Dataset → List Staged → Prop
  | wrote {w : Write} (htask : s.tasks i = .ready (.write w))
      (hanswer : (Backend.act s.core.stores (s.core.client i) (.write w)).result = .ok ()) :
      Business s i (.carryOut i) [⟨s.core.depot, .act (s.core.client i) (.write w), true⟩]
        s.core.depot.committed (s.core.staged i ++ s.core.depot.staging w)
  | refused {w : Write} (htask : s.tasks i = .ready (.write w)) {f : Fault}
      (hanswer : (Backend.act s.core.stores (s.core.client i) (.write w)).result = .error f) :
      Business s i (.carryOut i) [⟨s.core.depot, .act (s.core.client i) (.write w), false⟩]
        s.core.depot.committed (s.core.staged i)
  | queried {text : String} {answered : Bool} (htask : s.tasks i = .ready (.select text)) :
      Business s i (.carryOut i) [⟨s.core.depot, .select (s.core.client i) text, answered⟩]
        s.core.depot.committed (s.core.staged i)
  | derived {context : String} {writes : List Write} {asked : List (Entry Depot)}
      (htask : s.tasks i = .ready (.derive context writes)) :
      Business s i (.carryOut i) asked s.core.depot.committed
        (s.core.staged i ++ stagedOf (s.core.client i) asked)
  | committed {x : Xid} {onePhase : Bool} {asked : List (Entry Depot)}
      (hanswer : s.answer i (.commit x onePhase) = .ok none)
      (hwrites : writesOf (s.core.client i) asked = [])
      (haccess : ∀ e ∈ asked, e.question.isAccess = true → (s.journal i).writes ≠ []) :
      Business s i (.coordinate i (.commit x onePhase)) asked
        (s.core.depot.committed.applyAll (s.core.staged i)) []
  | notCommitted {x : Xid} {onePhase : Bool} {asked : List (Entry Depot)} {f : BranchFault}
      (hanswer : s.answer i (.commit x onePhase) = .error f)
      (haccess : ∀ e ∈ asked, e.question.isAccess = false) :
      Business s i (.coordinate i (.commit x onePhase)) asked s.core.depot.committed
        (s.core.staged i)
  | discarded {m : Move} {a : Action} {answered : Bool} (hdiscards : s.Discards i m)
      (ha : ∀ w, a ≠ .write w) :
      Business s i m [⟨s.core.depot, .act (s.core.client i) a, answered⟩]
        s.core.depot.committed []

/-- What a step asks the stores. -/
inductive Asked (s : Schedule (Recorded Depot)) (m : Move) (t : Recorded Depot) : Prop
  | nothing (hstores : t = s.core.stores)
  | client {answered : Bool} (hhistory : t.history = s.core.stores.history ++
        [⟨s.core.depot, .create, answered⟩])
      (happly : ∀ own, Depot.Apart own s.core.depot t.stores)
  | own {i : Nat} {asked : List (Entry Depot)} {data : Dataset} {staged : List Staged}
      (hi : i < s.size)
      (hacted : Acted s.core.depot.clients.length (s.core.client i) s.core.stores t asked data
        staged)
      (hbusiness : s.Business i m asked data staged)

/-- A commit that is answered without a fault applies what is staged.  Beside the commit only a
participant that has written something asks, and it does not write. -/
theorem acted_of_committed {p q : Participant} {r t : Recorded Depot} {x : Xid} {onePhase : Bool}
    (number : Nat) (hserves : r.stores.Serves p.client.number) (hflushes : r.stores.Flushes)
    (hobeys : p.Obeys r (.commit x onePhase) (.ok none) q t) :
    ∃ asked, Acted number p.client r t asked
        (r.stores.committed.applyAll (r.stores.client p.client.number).staged) [] ∧
      writesOf p.client asked = [] ∧
      ∀ e ∈ asked, e.question.isAccess = true → p.journal.writes ≠ [] := by
  -- the answer tells that the transaction was not refused
  have hsucceeds : (p.strategy.onStores r p.client p.journal.size).1 = .ok () →
      r.stores.refusal? p.client.number = none := by
    intro hdone
    by_contra hne
    obtain ⟨reason, hfails⟩ := Option.ne_none_iff_exists'.mp hne
    obtain ⟨u, asked, hstrategy, -⟩ :=
      acted_onStores_refused number hserves hfails p.strategy p.journal.size
    rw [hstrategy] at hdone
    contradiction
  cases hobeys with
  | moved hlocal hdecision => contradiction
  | committed hallowed hdone =>
    obtain ⟨u, asked, hstrategy, hacted, hnone⟩ :=
      acted_onStores number hserves hflushes (hsucceeds hdone) p.strategy p.journal.size
    rw [hstrategy]
    refine ⟨asked, hacted, writesOf_of_no_access hnone, fun e he haccess => ?_⟩
    rw [hnone e he] at haccess
    contradiction
  | committedListing hallowed hdone hwrote =>
    obtain ⟨u, asked, hstrategy, hacted, hnone⟩ :=
      acted_onStores number hserves hflushes (hsucceeds hdone) p.strategy p.journal.size
    rw [hstrategy]
    obtain ⟨answered, hlisted⟩ := acted_select number (hacted.leaves.serves hserves)
      Queries.allTransformations
    have hboth := hacted.trans hlisted
    rw [hacted.committed, hacted.staged] at hboth
    refine ⟨_, hboth, ?_, fun _ _ _ hempty => ?_⟩
    · rw [writesOf_append, writesOf_of_no_access hnone]
      rfl
    · have hsize : p.journal.size = 0 := congrArg List.length hempty
      omega

/-- What the coordinator's command asks the stores. -/
theorem asked_of_obeys {command : Command} {p : Participant} {t : Recorded Depot}
    (hk : s.core.Kept) (hi : i < s.size)
    (hobeys : (s.core.connection i).participant.Obeys s.core.stores command (s.answer i command)
      p t) : s.Asked (.coordinate i command) t := by
  have hserves : s.core.stores.stores.Serves (s.core.client i).number := hk.serves i hi
  have hcommitted : ∀ {x onePhase u}, s.answer i (.commit x onePhase) = .ok none →
      (s.core.connection i).participant.Obeys s.core.stores (.commit x onePhase) (.ok none) p u →
      s.Asked (.coordinate i (.commit x onePhase)) u := by
    intro x onePhase u hanswer hobeys
    obtain ⟨asked, hacted, hwrites, haccess⟩ :=
      acted_of_committed s.core.depot.clients.length hserves hk.flushes hobeys
    exact .own hi hacted (.committed hanswer hwrites haccess)
  generalize hanswer : s.answer i command = answer at hobeys
  cases hobeys with
  | refused hdecision => exact .nothing rfl
  | moved hlocal hdecision => exact .nothing rfl
  | notCommitted hallowed hfault =>
    let p := (s.core.connection i).participant
    cases hrefusal : s.core.depot.refusal? (s.core.client i).number with
    | none =>
      obtain ⟨u, asked, hstrategy, -⟩ := acted_onStores s.core.depot.clients.length hserves
        hk.flushes hrefusal p.strategy p.journal.size
      rw [show p.strategy.onStores s.core.stores p.client p.journal.size = _ from hstrategy]
        at hfault
      contradiction
    | some reason =>
      obtain ⟨u, asked, hstrategy, hacted, hnone⟩ := acted_onStores_refused
        s.core.depot.clients.length hserves hrefusal p.strategy p.journal.size
      rw [show p.strategy.onStores s.core.stores p.client p.journal.size = _ from hstrategy]
      exact .own hi hacted (.notCommitted hanswer hnone)
  | committed hallowed hdone => exact hcommitted hanswer (.committed hallowed hdone)
  | committedListing hallowed hdone hwrote =>
    exact hcommitted hanswer (.committedListing hallowed hdone hwrote)
  -- a rolled back client drops what it has staged
  | rolledBack hallowed =>
    obtain ⟨-, hrolled⟩ := acted_act (a := .rollback) s.core.depot.clients.length hk.serving
      (Depot.does_rollback (s := (s.core.stores.stores, [])) hserves)
    exact .own hi hrolled (.discarded (Or.inr (Or.inr ⟨_, rfl, hanswer⟩)) (by simp))

/-- What the client of a connection is told to do beside writing. -/
theorem asked_of_discards {a : Action} {result : Except Fault Unit} (hk : s.core.Kept)
    (hi : i < s.size) (hdiscards : s.Discards i m) (ha : ∀ w, a ≠ .write w)
    (hdoes : Depot.Does (s.core.client i).number (Depot.act (s.core.client i).number a)
      (s.core.stores.stores, []) result s.core.depot.committed []) :
    s.Asked m (Backend.act s.core.stores (s.core.client i) a).state := by
  obtain ⟨-, hacted⟩ := acted_act s.core.depot.clients.length hk.serving hdoes
  exact .own hi hacted (.discarded hdiscards ha)

/-- Every step asks the stores in one of these ways. -/
theorem Step.asked (hstep : Step s m s') (hk : s.core.Kept) (ho : s.core.Orderly s.tasks) :
    s.Asked m s'.core.stores := by
  have hready : ∀ {i : Nat}, s.tasks i ≠ .idle → i < s.size := fun htask => ho.lt_of_task htask
  -- a client that is created belongs to nobody yet, also when no connection comes of it
  have hcreated : s.Asked m (Backend.create s.core.stores).state :=
    .client rfl (create_served hk.serving).2.1
  -- a connection is cleaned at its own request or by a listener: both invalidate its client
  have hdropped : ∀ {i : Nat}, i < s.size → s.Cleans i m →
      s.Asked m (Backend.act s.core.stores (s.core.client i) .invalidate).state := by
    intro i hi hcleans
    exact asked_of_discards hk hi (Or.inl hcleans) (by simp)
      (Depot.does_invalidate (s := (s.core.stores.stores, [])) (hk.serves i hi))
  have hturn := hstep.turn
  generalize hcore : s'.core = k at hturn
  generalize s'.tasks = tasks at hturn
  cases hturn with
  | createdNone => exact hcreated
  | created strategy derives hclient => exact hcreated
  | @wrote i w htask =>
    have hi := hready (i := i) (by simp [htask])
    have hwrote := wrote_write s.core.depot.clients.length (hk.serves i hi) w
    change Acted _ _ _ _ _ _ (s.core.staged i ++ stagedOf _ _) at hwrote
    rcases hanswer : (Backend.act s.core.stores (s.core.client i) (.write w)).result with f | u
    · rw [Core.perform_of_error hanswer]
      rw [hanswer, show (Except.error f : Except Fault Unit).isOk = false from rfl,
        stagedOf_refused, List.append_nil] at hwrote
      exact .own hi hwrote (.refused htask hanswer)
    · rw [Core.perform_of_ok hanswer]
      rw [hanswer, show (Except.ok u : Except Fault Unit).isOk = true from rfl,
        stagedOf_accepted] at hwrote
      exact .own hi hwrote (.wrote htask hanswer)
  | @queried i text result htask =>
    have hi := hready (i := i) (by simp [htask])
    obtain ⟨answered, hacted⟩ := acted_select s.core.depot.clients.length
      (hk.serves i hi) text
    exact .own hi hacted (.queried htask)
  | @derived i context writes o result htask hstores =>
    have hi := hready (i := i) (by simp [htask])
    obtain ⟨asked, hwrote⟩ := wrote_run (hk.serves i hi) context writes o hstores
    exact .own hi hwrote (.derived htask)
  | @toldCleaning j i kind error l rest htask hcleans hfree =>
    have hi : i < s.size := by
      rcases hfree with rfl | hfree
      · exact hready (by simp [htask])
      · exact hfree.1
    exact hdropped hi hcleans
  | coordinated hi hobeys => exact asked_of_obeys hk hi hobeys
  | cleaned hfree => exact hdropped hfree.1 rfl
  | @destroyed i hfree =>
    exact asked_of_discards hk hfree.1 (Or.inr (Or.inl rfl)) (by simp)
      (Depot.does_disconnect (s := (s.core.stores.stores, [])) (hk.serves i hfree.1))
  | _ => exact .nothing rfl

/-! ## One connection among others -/

theorem Asked.leaves {t : Recorded Depot} (hs : s.core.depot.Serving) (hasked : s.Asked m t) :
    ∃ own, Depot.Leaves own s.core.depot t.stores := by
  cases hasked with
  | nothing hstores => exact ⟨fun _ => False, hstores ▸ .refl hs⟩
  | client hhistory happly => exact ⟨_, (happly fun _ => False).toLeaves⟩
  | own hi hacted hbusiness => exact ⟨_, hacted.leaves⟩

/-- A step that does not act on behalf of a connection: its client is not asked, it has staged what
it had, and committed data change only by a commit of what another client has staged. -/
structure Passes (s : Schedule (Recorded Depot)) (i : Nat) (m : Move) (t : Recorded Depot) :
    Prop where
  history : ∃ asked, t.history = s.core.stores.history ++ asked ∧
    ∀ e ∈ asked, e.question.client? ≠ some (s.core.client i)
  staged : (t.stores.client (s.core.client i).number).staged = s.core.staged i
  committed : t.stores.committed = s.core.depot.committed ∨ ∃ j x onePhase, j < s.size ∧ j ≠ i ∧
    m = .coordinate j (.commit x onePhase) ∧
    t.stores.committed = s.core.depot.committed.applyAll (s.core.staged j)

omit [Engine] in
theorem clientId_ext {k l : ClientId} (hnumber : k.number = l.number) : k = l := by
  obtain ⟨n⟩ := k
  obtain ⟨n'⟩ := l
  exact congrArg ClientId.mk hnumber

/-- A step acts on behalf of a connection, or passes it by. -/
theorem Asked.cases_on {t : Recorded Depot} (hk : s.core.Kept) (hi : i < s.size)
    (hasked : s.Asked m t) : s.Passes i m t ∨
    ∃ asked, t.history = s.core.stores.history ++ asked ∧ (∀ e ∈ asked, e.IsTrue) ∧
      s.Business i m asked t.stores.committed
        (t.stores.client (s.core.client i).number).staged := by
  have hexist : (s.core.client i).number < s.core.depot.clients.length := (hk.serves i hi).exist
  cases hasked with
  | nothing hstores =>
    subst hstores
    exact Or.inl ⟨⟨[], (List.append_nil _).symm, by simp⟩, rfl, Or.inl rfl⟩
  | client hhistory happly =>
    left
    refine ⟨⟨_, hhistory, fun e he => ?_⟩, ?_, Or.inl (happly fun _ => False).committed⟩
    · rw [List.mem_singleton.mp he]
      simp [Question.client?]
    · exact congrArg Client.staged ((happly fun _ => False).others _ hexist id)
  | @own j asked data staged hj hacted hbusiness =>
    by_cases hij : i = j
    · subst hij
      right
      refine ⟨asked, hacted.history, hacted.truth, ?_⟩
      rw [hacted.committed, hacted.staged]
      exact hbusiness
    -- the step acts for another connection, whose client is another one
    · have hne : s.core.client i ≠ s.core.client j := fun heq => hij (hk.distinct i j hi hj heq)
      left
      refine ⟨⟨asked, hacted.history, fun e he hclient => ?_⟩, ?_, ?_⟩
      · rcases hacted.askers e he _ hclient with heq | hge
        · exact hne heq
        · omega
      · refine congrArg Client.staged (hacted.leaves.others _ hexist ?_)
        rintro (heq | hge)
        · exact hne (clientId_ext heq)
        · omega
      · rw [hacted.committed]
        cases hbusiness with
        | @committed x onePhase _ hanswer hwrites haccess =>
          exact Or.inr ⟨j, x, onePhase, hj, fun heq => hij heq.symm, rfl, rfl⟩
        | _ => exact Or.inl rfl

theorem Step.client (hstep : Step s m s') (hi : i < s.size) :
    s'.core.client i = s.core.client i :=
  hstep.client_eq hi

/-- What a connection that is cleaned has staged is dropped. -/
theorem Step.staged_of_cleans (hstep : Step s m s') (hk : s.core.Kept) (hi : i < s.size)
    (hcleans : s.Cleans i m) : s'.core.staged i = [] := by
  obtain ⟨-, hacted⟩ := acted_act (a := .invalidate) s.core.depot.clients.length hk.serving
    (Depot.does_invalidate (s := (s.core.stores.stores, [])) (hk.serves i hi))
  have hstores : s'.core.stores =
      (Backend.act s.core.stores (s.core.client i) .invalidate).state := by
    rw [hstep.core_of_cleans hcleans]
    rfl
  rw [Core.staged, hstep.client hi, Core.depot, hstores]
  exact hacted.staged

/-- Nothing is left of what a connection has staged when its branch is committed. -/
theorem Step.staged_of_commit {x : Xid} {onePhase : Bool}
    (hstep : Step s (.coordinate i (.commit x onePhase)) s') (hk : s.core.Kept)
    (hanswer : s.answer i (.commit x onePhase) = .ok none) : s'.core.staged i = [] := by
  have hclient := fun hi : i < s.size => hstep.client hi
  cases hstep with
  | coordinate command hi =>
    have hobeys := order_obeys (.commit x onePhase) hi
    rw [hanswer] at hobeys
    obtain ⟨asked, hacted, -, -⟩ :=
      acted_of_committed s.core.depot.clients.length (hk.serves i hi) hk.flushes hobeys
    rw [Core.staged, hclient hi]
    exact hacted.staged

/-- An accepted write is added to the journal. -/
theorem Step.journal_of_wrote {w : Write} (hstep : Step s (.carryOut i) s') (hi : i < s.size)
    (htask : s.tasks i = .ready (.write w))
    (hanswer : (Backend.act s.core.stores (s.core.client i) (.write w)).result = .ok ()) :
    (s'.journal i).writes = (s.journal i).writes ++ [w] := by
  change (s'.core.connection i).participant.journal.writes = _
  rw [hstep.core_of_write htask]
  rcases Core.connection_perform_self (c := s.core) (w := w) hi with ⟨happend, -⟩ | ⟨-, f, hf⟩
  · rw [happend]
    rfl
  · rw [show (Backend.act s.core.stores (s.core.connection i).client (.write w)).result = .ok ()
      from hanswer] at hf
    contradiction

/-- A connection is not passed by when its write is accepted. -/
theorem Passes.not_wrote {w : Write} (hpasses : s.Passes i (.carryOut i) s'.core.stores)
    (hstep : Step s (.carryOut i) s') (htask : s.tasks i = .ready (.write w)) : False := by
  obtain ⟨asked, hhistory, hothers⟩ := hpasses.history
  have hstores : s'.core.stores =
      (Backend.act s.core.stores (s.core.client i) (.write w)).state := by
    rw [hstep.core_of_write htask, Core.perform]
    split <;> rfl
  have hwrite := Recorded.history_after s.core.stores (.act (s.core.client i) (.write w))
  rw [hstores] at hhistory
  change (Backend.act s.core.stores (s.core.client i) (.write w)).state.history = _ at hwrite
  rw [hwrite] at hhistory
  obtain rfl := List.append_cancel_left hhistory
  exact hothers _ (List.mem_singleton_self _) rfl

/-- What a business leaves in the journal, as far as it has accepted writes. -/
theorem Business.writes {asked : List (Entry Depot)} {data : Dataset} {staged : List Staged}
    (hbusiness : s.Business i m asked data staged) (hstep : Step s m s')
    (ho : s.core.Orderly s.tasks) (hi : i < s.size)
    (hwrites : writesOf (s.core.client i) asked ≠ []) :
    (s.journal i).writes ≠ [] ∨ (s'.journal i).writes ≠ [] := by
  cases hbusiness with
  | wrote htask hanswer =>
    right
    rw [hstep.journal_of_wrote hi htask hanswer]
    simp
  | refused htask hanswer => simp at hwrites
  | queried htask => exact absurd rfl hwrites
  | derived htask =>
    left
    obtain ⟨rfl, hne⟩ := ho.source i _ (by rw [htask]; rfl)
    exact hne
  | committed hanswer hnone haccess => exact absurd hnone hwrites
  | notCommitted hanswer haccess => exact absurd (writesOf_of_no_access haccess) hwrites
  | discarded hdiscards ha =>
    refine absurd (writesOf_of_no_access fun e he => ?_) hwrites
    rw [List.mem_singleton.mp he]
    exact Question.isAccess_act ha

/-- A business that carries out an accepted write has this write. -/
theorem Business.writesOf_ne_nil {asked : List (Entry Depot)} {data : Dataset}
    {staged : List Staged} {w : Write} (hbusiness : s.Business i (.carryOut i) asked data staged)
    (htask : s.tasks i = .ready (.write w))
    (hanswer : (Backend.act s.core.stores (s.core.client i) (.write w)).result = .ok ()) :
    writesOf (s.core.client i) asked ≠ [] := by
  cases hbusiness with
  | wrote htask' hanswer' => simp
  | refused htask' hanswer' =>
    rw [htask] at htask'
    obtain rfl := Work.write.inj (Task.ready.inj htask')
    rw [hanswer] at hanswer'
    contradiction
  | queried htask' =>
    rw [htask] at htask'
    cases Task.ready.inj htask'
  | derived htask' =>
    rw [htask] at htask'
    cases Task.ready.inj htask'
  | discarded hdiscards ha =>
    rcases hdiscards with hcleans | hdestroy | ⟨x, hrollback, -⟩
    · exact hcleans.elim
    · contradiction
    · contradiction

/-- The journal of a connection holds something if and only if it did before or a write of the
connection's client was accepted. -/
theorem Step.writes_iff (hstep : Step s m s') (hk : s.core.Kept) (ho : s.core.Orderly s.tasks)
    (hi : i < s.size) (hcleans : ¬ s.Cleans i m) :
    ∃ asked, s'.core.stores.history = s.core.stores.history ++ asked ∧
      ((s'.journal i).writes ≠ [] ↔
        (s.journal i).writes ≠ [] ∨ writesOf (s.core.client i) asked ≠ []) := by
  have hkept := hstep.writes_ne_nil (i := i) hcleans
  -- what the step does to the journal, and then what it asks
  have hsame : (s'.journal i).writes ≠ [] → (s.journal i).writes ≠ [] ∨
      ∃ w, m = .carryOut i ∧ s.tasks i = .ready (.write w) ∧
        (Backend.act s.core.stores (s.core.client i) (.write w)).result = .ok () := by
    intro hafter
    rcases hstep.participant_cases hi with
      ⟨-, hsame⟩ | ⟨w, hm, htask, hok, -⟩ | ⟨command, t, -, hobeys, -⟩ | ⟨hcleaned, -⟩
    · left
      rwa [journal, hsame] at hafter
    · exact Or.inr ⟨w, hm, htask, hok⟩
    · left
      rwa [journal, hobeys.keeps.2.2] at hafter
    · exact absurd hcleaned hcleans
  rcases (hstep.asked hk ho).cases_on hk hi with hpasses | ⟨asked, hhistory, -, hbusiness⟩
  · obtain ⟨asked, hhistory, hothers⟩ := hpasses.history
    refine ⟨asked, hhistory, ?_⟩
    rw [writesOf_of_others hothers]
    constructor
    · intro hafter
      rcases hsame hafter with hbefore | ⟨w, rfl, htask, -⟩
      · exact Or.inl hbefore
      · exact (hpasses.not_wrote hstep htask).elim
    · rintro (hbefore | hnone)
      · exact hkept hbefore
      · exact absurd rfl hnone
  · refine ⟨asked, hhistory, ?_, ?_⟩
    · intro hafter
      rcases hsame hafter with hbefore | ⟨w, rfl, htask, hok⟩
      · exact Or.inl hbefore
      · right
        exact hbusiness.writesOf_ne_nil htask hok
    · rintro (hbefore | hwrites)
      · exact hkept hbefore
      · exact (hbusiness.writes hstep ho hi hwrites).elim hkept id

/-- A connection with an empty journal has staged nothing. -/
theorem Step.unstaged (hstep : Step s m s') (hk : s.core.Kept) (ho : s.core.Orderly s.tasks)
    (hi : i < s.size) (hempty : (s'.journal i).writes = []) : s'.core.staged i = [] := by
  by_cases hcleans : s.Cleans i m
  · exact hstep.staged_of_cleans hk hi hcleans
  -- the journal was empty before, for only a cleaning empties it
  have hbefore : (s.journal i).writes = [] := by
    by_contra hne
    exact hstep.writes_ne_nil hcleans hne hempty
  have hnone := hk.unstaged i hi hbefore
  change (s'.core.stores.stores.client (s'.core.client i).number).staged = []
  rw [hstep.client hi]
  rcases (hstep.asked hk ho).cases_on hk hi with hpasses | ⟨asked, -, -, hbusiness⟩
  · exact hpasses.staged.trans hnone
  · generalize s'.core.stores.stores.committed = data at hbusiness
    generalize (s'.core.stores.stores.client (s.core.client i).number).staged = staged
      at hbusiness ⊢
    cases hbusiness with
    | wrote htask hanswer =>
      rw [hstep.journal_of_wrote hi htask hanswer] at hempty
      exact absurd hempty (by simp)
    | refused htask hanswer => exact hnone
    | queried htask => exact hnone
    | derived htask =>
      obtain ⟨rfl, hne⟩ := ho.source i _ (by rw [htask]; rfl)
      exact absurd hbefore hne
    | committed hanswer hwrites haccess => rfl
    | notCommitted hanswer haccess => exact hnone
    | discarded hdiscards ha => rfl

/-- A new connection has a client that was not there before, and this one has staged nothing. -/
theorem client_enlist {client : ClientId} {strategy : Strategy} {derives : Bool}
    (hserving : s.core.depot.Serving) (hclient : (Backend.create s.core.stores).result = .ok client)
    (hcore : s'.core = s.core.create.enlist client strategy derives) :
    s'.core.size = s.size + 1 ∧ (s'.core.client s.size).number = s.core.depot.clients.length ∧
      s'.core.depot.Serves (s'.core.client s.size).number ∧ s'.core.staged s.size = [] := by
  obtain ⟨hresult, -, hserves, hstaged⟩ := create_served hserving
  rw [hresult] at hclient
  obtain rfl := Except.ok.inj hclient
  have hlast : s'.core.client s.size = ⟨s.core.stores.stores.clients.length⟩ := by
    rw [hcore, Core.client]
    exact congrArg Connection.client (Core.connection_enlist_self (c := s.core.create))
  have hsize : s'.core.size = s.size + 1 := by
    rw [hcore]
    exact Core.size_enlist
  rw [Core.staged, hlast]
  refine ⟨hsize, rfl, ?_, ?_⟩
  · rw [hcore]
    exact hserves
  · rw [hcore]
    exact hstaged

/-- A step keeps the connections apart. -/
theorem Step.kept (hstep : Step s m s') (hk : s.core.Kept) (ho : s.core.Orderly s.tasks) :
    s'.core.Kept := by
  obtain ⟨own, hleaves⟩ := (hstep.asked hk ho).leaves hk.serving
  have hserves : ∀ i, i < s.size → s'.core.depot.Serves (s'.core.client i).number := by
    intro i hi
    rw [hstep.client hi]
    exact hleaves.serves (hk.serves i hi)
  have hdistinct : ∀ i j, i < s.size → j < s.size →
      s'.core.client i = s'.core.client j → i = j := by
    intro i j hi hj heq
    rw [hstep.client hi, hstep.client hj] at heq
    exact hk.distinct i j hi hj heq
  -- a step adds one connection at most, and that one has a client which was made for it
  rcases hstep.size_cases with hsize | ⟨client, strategy, derives, hclient, hcore⟩
  · change s'.core.size = s.size at hsize
    refine ⟨hleaves.serving, hleaves.keepsFlushes hk.flushes,
      fun i hi => hserves i (hsize ▸ hi), ?_, ?_⟩
    · exact fun i j hi hj heq => hdistinct i j (hsize ▸ hi) (hsize ▸ hj) heq
    · exact fun i hi hempty => hstep.unstaged hk ho (hsize ▸ hi) hempty
  · obtain ⟨hsize, hlast, hnew, hstaged⟩ := client_enlist hk.serving hclient hcore
    have hcases : ∀ i, i < s'.core.size → i < s.size ∨ i = s.size := by
      intro i hi
      omega
    have hother : ∀ i, i < s.size → s'.core.client i ≠ s'.core.client s.size := by
      intro i hi heq
      have hlt := (hk.serves i hi).exist
      rw [← hstep.client hi, heq] at hlt
      omega
    refine ⟨hleaves.serving, hleaves.keepsFlushes hk.flushes, ?_, ?_, ?_⟩
    · intro i hi
      rcases hcases i hi with hi | rfl
      · exact hserves i hi
      · exact hnew
    · intro i j hi hj heq
      rcases hcases i hi with hi | rfl <;> rcases hcases j hj with hj | rfl
      · exact hdistinct i j hi hj heq
      · exact absurd heq (hother i hi)
      · exact absurd heq.symm (hother j hj)
      · rfl
    · intro i hi hempty
      rcases hcases i hi with hi | rfl
      · exact hstep.unstaged hk ho hi hempty
      · exact hstaged

end Schedule

end GraphCommit
