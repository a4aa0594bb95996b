import GraphCommit.Proofs.Derivation
import GraphCommit.Proofs.Recorded
import GraphCommit.Proofs.Store.Working

/-!
# Depots with a history

The history of a recorded depot tells which writes of a client were accepted, and to which depot
each of them was put; from that depot follow the changes that the write staged (`stagedOf`).
`Wrote` says that a client has staged just the changes of its accepted writes while nothing was
committed.  It holds of a single write, of a query, and of a whole derivation, which writes what it
has found through the client and otherwise works with a client of the working repository.
-/

namespace GraphCommit

/-- The changes that a write stages in a depot; a refused one stages none. -/
def Depot.staging [Document.Fetcher] (d : Depot) (w : Write) : List Staged :=
  match d.changes w with
  | .ok (staged, _) => staged
  | .error _ => []

/-- The accepted write of a client that an entry is about, with the stores that it was put to. -/
def Entry.write? {S : Type} (k : ClientId) (e : Entry S) : Option (S × Write) :=
  match e.question with
  | .act j (.write w) => if j = k ∧ e.answered = true then some (e.before, w) else none
  | _ => none

namespace Recorded

/-- The accepted writes of a client among some questions. -/
def writesOf {S : Type} (k : ClientId) (asked : List (Entry S)) : List (S × Write) :=
  asked.filterMap (Entry.write? k)

/-- The changes that these writes have staged. -/
def stagedOf [Document.Fetcher] (k : ClientId) (asked : List (Entry Depot)) : List Staged :=
  (writesOf k asked).flatMap fun accepted => accepted.1.staging accepted.2

variable {k working : ClientId} {r t u : Recorded Depot} {asked later : List (Entry Depot)}
  {number : Nat}

@[simp] theorem writesOf_append :
    writesOf k (asked ++ later) = writesOf k asked ++ writesOf k later := by
  simp [writesOf]

/-! A single question has the write that it is about, if this one was accepted. -/

@[simp] theorem writesOf_accepted {S : Type} (s : S) (k : ClientId) (w : Write) :
    writesOf k [⟨s, .act k (.write w), true⟩] = [(s, w)] := by
  simp [writesOf, Entry.write?]

@[simp] theorem writesOf_refused {S : Type} (s : S) (k : ClientId) (w : Write) :
    writesOf k [⟨s, .act k (.write w), false⟩] = [] := by
  simp [writesOf, Entry.write?]

/-- Questions that nobody else but other clients put have no accepted writes of a client. -/
theorem writesOf_of_others (hothers : ∀ e ∈ asked, e.question.client? ≠ some k) :
    writesOf k asked = [] := by
  rw [writesOf, List.filterMap_eq_nil_iff]
  intro e he
  have hclient := hothers e he
  unfold Entry.write?
  split
  · next j w hquestion =>
    rw [hquestion] at hclient
    have hne : j ≠ k := fun heq => hclient (congrArg some heq)
    simp [hne]
  · rfl

/-- Nor have questions that are no accesses. -/
theorem writesOf_of_no_access (hnone : ∀ e ∈ asked, e.question.isAccess = false) :
    writesOf k asked = [] := by
  rw [writesOf, List.filterMap_eq_nil_iff]
  intro e he
  have haccess := hnone e he
  unfold Entry.write?
  split
  · next j w hquestion =>
    rw [hquestion] at haccess
    contradiction
  · rfl

section

variable [Document.Fetcher]

@[simp] theorem stagedOf_append :
    stagedOf k (asked ++ later) = stagedOf k asked ++ stagedOf k later := by
  simp [stagedOf]

theorem stagedOf_accepted (d : Depot) (k : ClientId) (w : Write) :
    stagedOf k [⟨d, .act k (.write w), true⟩] = d.staging w := by
  simp [stagedOf]

theorem stagedOf_refused (d : Depot) (k : ClientId) (w : Write) :
    stagedOf k [⟨d, .act k (.write w), false⟩] = [] := by
  simp [stagedOf]

theorem stagedOf_of_writesOf (hwrites : writesOf k asked = []) : stagedOf k asked = [] := by
  rw [stagedOf, hwrites]
  rfl

end

/-! ## Questions -/

/-- What a client of the main repository does when it is asked. -/
theorem respond_of_does {α : Type} {work : Depot.Work α} {d : Depot} {n : Nat}
    {result : Except Fault α} {data : Dataset} {staged : List Staged}
    (hdoes : Depot.Does n work (d, []) result data staged) :
    (Depot.Work.respond work d).result = result ∧
      Depot.Becomes n d (Depot.Work.respond work d).state data staged := by
  obtain ⟨t, hwork, hbecomes⟩ := hdoes
  have hrun : work.run (d, []) = (result, t) := hwork
  unfold Depot.Work.respond
  rw [hrun]
  exact ⟨rfl, hbecomes⟩

/-- Clients are numbered by the depot. -/
theorem respond_map {work : Depot.Work Nat} {d : Depot} :
    Depot.Work.respond (ClientId.mk <$> work) d =
      ⟨(work (d, [])).1.map ClientId.mk, (work (d, [])).2.1, (work (d, [])).2.2⟩ := by
  have hrun : (ClientId.mk <$> work).run (d, []) =
      ((work (d, [])).1.map ClientId.mk, (work (d, [])).2) := by
    change (ClientId.mk <$> work) (d, []) = _
    rw [Effect.map_apply]
    rcases work (d, []) with ⟨fault | n, t⟩ <;> rfl
  unfold Depot.Work.respond
  rw [hrun]

/-- The clients that may act on behalf of a client: itself, and those from a number on. -/
def Helps (number : Nat) (k : ClientId) (j : Nat) : Prop := j = k.number ∨ number ≤ j

section

variable [Engine]

/-- Some questions were put on behalf of a client of the main repository.  They left all other
clients alone, and this is what the committed data and the staged changes are after them. -/
structure Acted (number : Nat) (k : ClientId) (r t : Recorded Depot) (asked : List (Entry Depot))
    (data : Dataset) (staged : List Staged) : Prop where
  history : t.history = r.history ++ asked
  leaves : Depot.Leaves (Helps number k) r.stores t.stores
  committed : t.stores.committed = data
  staged : (t.stores.client k.number).staged = staged
  askers : ∀ e ∈ asked, ∀ j, e.question.client? = some j → j = k ∨ number ≤ j.number
  befores : ∀ e ∈ asked, Depot.Leaves (Helps number k) r.stores e.before
  truth : ∀ e ∈ asked, e.IsTrue

variable {data data' : Dataset} {staged staged' : List Staged}

theorem Acted.trans (hfirst : Acted number k r t asked data staged)
    (hsecond : Acted number k t u later data' staged') :
    Acted number k r u (asked ++ later) data' staged' where
  history := by rw [hsecond.history, hfirst.history, List.append_assoc]
  leaves := hfirst.leaves.trans hsecond.leaves
  committed := hsecond.committed
  staged := hsecond.staged
  askers := by
    intro e he
    rcases List.mem_append.mp he with he | he
    · exact hfirst.askers e he
    · exact hsecond.askers e he
  befores := by
    intro e he
    rcases List.mem_append.mp he with he | he
    · exact hfirst.befores e he
    · exact hfirst.leaves.trans (hsecond.befores e he)
  truth := by
    intro e he
    exact (List.mem_append.mp he).elim (hfirst.truth e) (hsecond.truth e)

/-- What the client itself does when it is asked once. -/
theorem acted_of_becomes {e : Entry Depot} (hr : r.stores.Serving) (hbefore : e.before = r.stores)
    (hhistory : t.history = r.history ++ [e]) (htrue : e.IsTrue)
    (hclient : e.question.client? = some k)
    (hbecomes : Depot.Becomes k.number r.stores t.stores data staged) :
    Acted number k r t [e] data staged where
  history := hhistory
  leaves := hbecomes.toLeaves.mono fun _ _ h => Or.inl h
  committed := hbecomes.committed
  staged := hbecomes.staged
  askers := by
    intro e' he j hj
    rw [List.mem_singleton.mp he, hclient] at hj
    exact Or.inl (Option.some.inj hj).symm
  befores := by
    intro e' he
    rw [List.mem_singleton.mp he, hbefore]
    exact .refl hr
  truth := by
    intro e' he
    rw [List.mem_singleton.mp he]
    exact htrue

theorem acted_act (number : Nat) (hr : r.stores.Serving) {a : Action} {result : Except Fault Unit}
    (hdoes : Depot.Does k.number (Depot.act k.number a) (r.stores, []) result data staged) :
    (Backend.act r k a).result = result ∧
      Acted number k r (Backend.act r k a).state [⟨r.stores, .act k a, result.isOk⟩] data
        staged := by
  obtain ⟨hresult, hbecomes⟩ := respond_of_does hdoes
  have hanswer : (Backend.act r k a).result = result := hresult
  rw [← hanswer]
  exact ⟨rfl, acted_of_becomes hr rfl rfl rfl rfl hbecomes⟩

theorem acted_select (number : Nat) (hk : r.stores.Serves k.number) (text : String) :
    ∃ answered, Acted number k r (Backend.select r k text).state
      [⟨r.stores, .select k text, answered⟩] r.stores.committed
      (r.stores.client k.number).staged := by
  have hdoes := Depot.does_query (s := (r.stores, [])) hk Depot.rowsOf text
  obtain ⟨-, hbecomes⟩ := respond_of_does hdoes
  exact ⟨_, acted_of_becomes hk.serving rfl rfl rfl rfl hbecomes⟩

/-- A new client is a client of the main repository that has staged nothing. -/
theorem create_served (hr : r.stores.Serving) :
    (Backend.create r).result = .ok ⟨r.stores.clients.length⟩ ∧
      (∀ own, Depot.Apart own r.stores (Backend.create r).state.stores) ∧
      (Backend.create r).state.stores.Serves r.stores.clients.length ∧
      ((Backend.create r).state.stores.client r.stores.clients.length).staged = [] := by
  obtain ⟨t, hconnect, happly, hserves, hstaged⟩ :=
    Depot.connectClient_main (s := (r.stores, [])) hr
  have hresponse : Backend.create r.stores = _ := respond_map
  rw [hconnect] at hresponse
  have hresult : (Backend.create r).result = .ok ⟨r.stores.clients.length⟩ :=
    congrArg Response.result hresponse
  have hstores : (Backend.create r).state.stores = t.1 := congrArg Response.state hresponse
  rw [hstores]
  exact ⟨hresult, happly, hserves, hstaged⟩

/-! ## Staging -/

/-- Nothing was committed, and the client has staged the changes of its accepted writes. -/
def Wrote (number : Nat) (k : ClientId) (r t : Recorded Depot) (asked : List (Entry Depot)) :
    Prop :=
  Acted number k r t asked r.stores.committed
    ((r.stores.client k.number).staged ++ stagedOf k asked)

theorem Wrote.trans (hfirst : Wrote number k r t asked) (hsecond : Wrote number k t u later) :
    Wrote number k r u (asked ++ later) := by
  have hboth := Acted.trans hfirst hsecond
  rw [hfirst.committed, hfirst.staged, List.append_assoc, ← stagedOf_append] at hboth
  exact hboth

/-- A write of the client itself. -/
theorem wrote_write (number : Nat) (hk : r.stores.Serves k.number) (w : Write) :
    Wrote number k r (Backend.act r k (.write w)).state
      [⟨r.stores, .act k (.write w), (Backend.act r k (.write w)).result.isOk⟩] := by
  rcases Depot.does_write (s := (r.stores, [])) hk w with
    ⟨staged, blanks, hchanges, hdoes⟩ | ⟨fault, hchanges, hwrite⟩
  · obtain ⟨hresult, hacted⟩ := acted_act (k := k) (a := .write w) number hk.serving hdoes
    have hstaged : r.stores.staging w = staged := by
      dsimp only at hchanges
      simp only [Depot.staging, hchanges]
    rw [hresult]
    change Acted number k r _ _ _ (_ ++ stagedOf k [⟨r.stores, .act k (.write w), true⟩])
    rw [stagedOf_accepted, hstaged]
    exact hacted
  · have hdoes : Depot.Does k.number (Depot.act k.number (.write w)) (r.stores, []) (.error fault)
        r.stores.committed (r.stores.client k.number).staged := ⟨_, hwrite, hk.refl⟩
    obtain ⟨hresult, hacted⟩ := acted_act number hk.serving hdoes
    rw [hresult]
    change Acted number k r _ _ _ (_ ++ stagedOf k [⟨r.stores, .act k (.write w), false⟩])
    rw [stagedOf_refused, List.append_nil]
    exact hacted

/-- A question that has to do with other clients, if it has to do with any. -/
theorem wrote_of_apart {e : Entry Depot} {own : Nat → Prop} (hk : r.stores.Serves k.number)
    (hbefore : e.before = r.stores) (hhistory : t.history = r.history ++ [e]) (htrue : e.IsTrue)
    (happly : Depot.Apart own r.stores t.stores)
    (hclient : ∀ j, e.question.client? = some j → own j.number)
    (hown : ∀ j, own j → number ≤ j ∧ j ≠ k.number) : Wrote number k r t [e] where
  history := hhistory
  leaves := happly.toLeaves.mono fun j _ hj => Or.inr (hown j hj).1
  committed := happly.committed
  staged := by
    have hnone : stagedOf k [e] = [] := by
      refine stagedOf_of_writesOf (writesOf_of_others fun e' he' hasked => ?_)
      rw [List.mem_singleton.mp he'] at hasked
      exact (hown _ (hclient k hasked)).2 rfl
    have hsame := happly.others k.number hk.exist fun h => (hown _ h).2 rfl
    rw [hnone, List.append_nil, hsame]
  askers := by
    intro e' he' j hj
    rw [List.mem_singleton.mp he'] at hj
    exact Or.inr (hown _ (hclient j hj)).1
  befores := by
    intro e' he'
    rw [List.mem_singleton.mp he', hbefore]
    exact .refl hk.serving
  truth := by
    intro e' he'
    rw [List.mem_singleton.mp he']
    exact htrue

/-! ## A whole derivation -/

/-- In the middle of a derivation: what was written so far, and the client of the working
repository, which was not there when the derivation began. -/
def Deriving (k : ClientId) (r : Recorded Depot) (working : ClientId) (t : Recorded Depot) : Prop :=
  (∃ asked, Wrote r.stores.clients.length k r t asked) ∧
    r.stores.clients.length ≤ working.number ∧
    (t.stores.client working.number).repository ≠ Depot.main

theorem Deriving.work (hk : r.stores.Serves k.number) (hderiving : Deriving k r working t)
    {α : Type} {e : Entry Depot} {work : Depot.Work α} (hbefore : e.before = t.stores)
    (hhistory : u.history = t.history ++ [e]) (htrue : e.IsTrue)
    (hstores : u.stores = (Depot.Work.respond work t.stores).state)
    (happly : Depot.StaysApart (· = working.number) work (t.stores, []))
    (hclient : ∀ j, e.question.client? = some j → j = working) : Deriving k r working u := by
  obtain ⟨⟨asked, hwrote⟩, hnumber, hworking⟩ := hderiving
  have hne : working.number ≠ k.number := by
    have hlt := hk.exist
    omega
  have hstep : Depot.Apart (· = working.number) t.stores u.stores := by
    rw [hstores]
    exact happly hwrote.leaves.serving
  refine ⟨⟨_, hwrote.trans (wrote_of_apart (hwrote.leaves.serves hk) hbefore hhistory htrue hstep
    ?_ ?_)⟩, hnumber, hstep.repository_ne hworking⟩
  · intro j hj
    rw [hclient j hj]
  · rintro j rfl
    exact ⟨hnumber, hne⟩

/-- The questions of a derivation. -/
theorem allows_deriving (hk : r.stores.Serves k.number) (working : ClientId) :
    Derivation.Allows (Deriving k r working) k working where
  target := by
    rintro t w ⟨⟨asked, hwrote⟩, hnumber, hworking⟩
    have hstep := wrote_write r.stores.clients.length (hwrote.leaves.serves hk) w
    exact ⟨⟨_, hwrote.trans hstep⟩, hnumber, hstep.leaves.repository_ne hworking⟩
  write := fun t w ht => ht.work hk rfl rfl rfl rfl (Depot.staysApart_write (by rfl) w)
    fun j hj => (Option.some.inj hj).symm
  commit := fun t ht => ht.work hk rfl rfl rfl rfl (Depot.staysApart_commit (by rfl) ht.2.2)
    fun j hj => (Option.some.inj hj).symm
  disconnect := fun t ht => ht.work hk rfl rfl rfl rfl (Depot.staysApart_disconnect (by rfl))
    fun j hj => (Option.some.inj hj).symm
  select := fun t text ht => ht.work hk rfl rfl rfl rfl
    (Depot.staysApart_query (by rfl) ht.2.2 _ text) fun j hj => (Option.some.inj hj).symm
  ask := fun t text ht => ht.work hk rfl rfl rfl rfl
    (Depot.staysApart_query (by rfl) ht.2.2 _ text) fun j hj => (Option.some.inj hj).symm

/-- A derivation writes through its target and leaves everything else in the main repository
alone. -/
theorem wrote_run (hk : r.stores.Serves k.number) (context : String) (writes : List Write)
    (o : Outside (Recorded Depot)) (ho : o.stores = r) :
    ∃ asked, Wrote r.stores.clients.length k r (Derivation.run k context writes o).2.stores
      asked := by
  subst ho
  have hnobody : ∀ {t : Recorded Depot} {e : Entry Depot}, e.before = o.stores.stores →
      t.history = o.stores.history ++ [e] → e.IsTrue →
      Depot.Apart (fun _ => False) o.stores.stores t.stores →
      e.question.client? = none → Wrote o.stores.stores.clients.length k o.stores t [e] := by
    intro t e hbefore hhistory htrue happly hclient
    refine wrote_of_apart hk hbefore hhistory htrue happly (fun j hj => ?_) fun _ h => h.elim
    rw [hclient] at hj
    contradiction
  apply Derivation.run_stores (Q := Deriving k o.stores)
    (R := fun t => ∃ asked, Wrote o.stores.stores.clients.length k o.stores t asked)
    context writes o ?_ (allows_deriving hk) ?_
  · obtain ⟨happly, hnew⟩ := (Depot.addsApart_openAsWorking (s := (o.stores.stores, []))
      (r := Depot.working) (by decide) hk.serving : Depot.Apart (fun _ => False) _ _ ∧ _)
    have hresponse : Backend.openWorking o.stores.stores = _ := respond_map
    generalize Depot.openAsWorking Depot.working (o.stores.stores, []) = done
      at happly hnew hresponse
    have hresult : (Backend.openWorking o.stores).result = done.1.map ClientId.mk :=
      congrArg Response.result hresponse
    have hstores : (Backend.openWorking o.stores).state.stores = done.2.1 :=
      congrArg Response.state hresponse
    rw [← hstores] at happly hnew
    have hopened := hnobody (t := (Backend.openWorking o.stores).state) rfl rfl rfl happly rfl
    rw [hresult]
    rcases hdone : done.1 with fault | n
    · exact ⟨_, hopened⟩
    -- the client of the working repository is newer than all that there were
    · obtain ⟨hnumber, hworking⟩ := hnew n hdone
      exact ⟨⟨_, hopened⟩, hnumber, hworking⟩
  · rintro working t ⟨⟨asked, hwrote⟩, hnumber, hworking⟩
    have hshut : Depot.Apart (fun _ => False) t.stores (Backend.shutDownWorking t).state.stores :=
      Depot.staysApart_shutDown (s := (t.stores, [])) (by decide) hwrote.leaves.serving
    have hlast : Wrote o.stores.stores.clients.length k t (Backend.shutDownWorking t).state [_] :=
      wrote_of_apart (hwrote.leaves.serves hk) rfl rfl rfl hshut (fun j hj => by contradiction)
        fun _ h => h.elim
    exact ⟨_, hwrote.trans hlast⟩

end

end Recorded

end GraphCommit
