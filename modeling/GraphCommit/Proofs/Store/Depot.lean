import GraphCommit.Proofs.Effect
import GraphCommit.Proofs.Files
import GraphCommit.Store.Depot

/-!
# What happens to a depot

While the main repository is open (`Serving`), a client of it is told at once what it asks for: its
writes are staged, a commit applies them to the committed data, a query is answered from these data.
Each of these is one statement on the committed data and on the writes that the client has staged
(`Becomes`).  A commit that fails leaves both as they were.

What transactions and flushes meet with is used up in order.  If all flushes will succeed, this
remains so (`Leaves.flushes`).

Work on the other repositories leaves the committed data and the clients of the main repository
alone (`Apart`).  It could only reach them through a directory that two repositories have open, and
no repository opens a directory that is in use.
-/

namespace GraphCommit.Depot

open Depot.Work

variable {d e f : Depot} {k r : Nat}

/-! ## Parts of a depot -/

theorem client_updateClient_self (hk : k < d.clients.length) (g : Client → Client) :
    (d.updateClient k g).client k = g (d.client k) := by
  simp [client, updateClient, List.getD_eq_getElem?_getD, hk]

theorem client_updateClient_ne {j : Nat} (hj : j ≠ k) (g : Client → Client) :
    (d.updateClient k g).client j = d.client j := by
  simp [client, updateClient, List.getD_eq_getElem?_getD, hj.symm]

theorem repository_setOpened_ne {other : Nat} (hother : other ≠ r) (opened : Option Opened) :
    (d.setOpened r opened).repository other = d.repository other := by
  simp [repository, setOpened, List.getD_eq_getElem?_getD, hother.symm]

theorem repository_setOpened_self (hr : r < d.repositories.length) (opened : Option Opened) :
    (d.setOpened r opened).repository r = { d.repository r with opened } := by
  simp [repository, setOpened, List.getD_eq_getElem?_getD, hr]

theorem path_setOpened {other : Nat} (r : Nat) (opened : Option Opened) :
    ((d.setOpened r opened).repository other).path = (d.repository other).path := by
  simp only [repository, setOpened, List.getD_eq_getElem?_getD, List.getElem?_modify]
  cases d.repositories[other]? with
  | none => rfl
  | some found => split <;> rfl

/-- Beyond the last repository there is nothing that could be opened. -/
theorem opened_setOpened (r : Nat) (opened : Option Opened) :
    ((d.setOpened r opened).repository r).opened = opened ∨
      (d.setOpened r opened).repository r = default := by
  by_cases hr : r < d.repositories.length
  · left
    rw [repository_setOpened_self hr]
  · right
    simp [repository, setOpened, List.getD_eq_getElem?_getD, hr]

theorem opened_setOpened_none (r : Nat) :
    ((d.setOpened r none).repository r).opened = none := by
  rcases opened_setOpened (d := d) r none with h | h
  · exact h
  · rw [h]
    rfl

@[simp] theorem clients_setData (r : Nat) (data : Dataset) :
    (d.setData r data).clients = d.clients := by
  unfold setData
  split <;> rfl

@[simp] theorem flushes_setData (r : Nat) (data : Dataset) :
    (d.setData r data).flushes = d.flushes := by
  unfold setData
  split <;> rfl

/-- An open repository is one of those that there are. -/
theorem lt_of_opened {opened : Opened} (hopened : (d.repository r).opened = some opened) :
    r < d.repositories.length := by
  by_contra hr
  rw [repository, List.getD_eq_getElem?_getD,
    List.getElem?_eq_none (Nat.le_of_not_lt hr)] at hopened
  contradiction

theorem isInUse_eq_false_iff {place : Files.Place} :
    d.isInUse place = false ↔ ∀ r, (d.repository r).opened ≠ some (.directory place) := by
  constructor
  · intro hfree r hopened
    have hr := lt_of_opened hopened
    have hmem : d.repository r ∈ d.repositories := by
      simp [repository, List.getD_eq_getElem?_getD, hr]
    have huse : d.isInUse place = true := by
      simp only [isInUse, List.any_eq_true]
      exact ⟨_, hmem, by simp [hopened]⟩
    rw [hfree] at huse
    contradiction
  · intro hclosed
    simp only [isInUse, List.any_eq_false, beq_iff_eq]
    intro repository hmem
    obtain ⟨r, hr, rfl⟩ := List.getElem_of_mem hmem
    simpa [Depot.repository, List.getD_eq_getElem?_getD, hr] using hclosed r

theorem setOpened_setOpened (first second : Option Opened) :
    (d.setOpened r first).setOpened r second = d.setOpened r second := by
  simp only [setOpened, List.modify_modify_eq]
  rfl

/-- Opening what is open changes nothing. -/
theorem setOpened_self {opened : Option Opened} (hopened : (d.repository r).opened = opened) :
    d.setOpened r opened = d := by
  have hsame : d.repositories.modify r ({ · with opened }) = d.repositories := by
    apply List.ext_getElem?
    intro other
    by_cases hother : r = other
    · subst hother
      cases hfound : d.repositories[r]? with
      | none => simp [hfound]
      | some found =>
        have heq : d.repository r = found := by
          simp [repository, List.getD_eq_getElem?_getD, hfound]
        simp [hfound, ← hopened, heq]
    · simp [hother]
  rw [setOpened, hsame]

/-! ## The main repository -/

/-- The main repository is open, in memory or in the directory that its path leads to.  Nobody else
has this directory open. -/
inductive Serving (d : Depot) : Prop
  | memory {data : Dataset} (hpath : (d.repository main).path = none)
      (hopened : (d.repository main).opened = some (.memory data))
  | directory {path : String} {place : Files.Place} (hpath : (d.repository main).path = some path)
      (hopened : (d.repository main).opened = some (.directory place))
      (hplace : d.files.find path = .ok (place, .directory))
      (halone : ∀ r, r ≠ main → (d.repository r).opened ≠ some (.directory place))

/-- The committed data of the main repository. -/
def committed (d : Depot) : Dataset := (d.data? main).getD .empty

theorem Serving.isOpen (hd : d.Serving) : (d.repository main).opened.isSome = true := by
  cases hd with
  | memory hpath hopened => rw [hopened]; rfl
  | directory hpath hopened hplace halone => rw [hopened]; rfl

theorem Serving.alone {place : Files.Place} (hd : d.Serving)
    (hopened : (d.repository main).opened = some (.directory place)) (hr : r ≠ main) :
    (d.repository r).opened ≠ some (.directory place) := by
  cases hd with
  | memory hpath hmemory => simp [hmemory] at hopened
  | directory hpath hdirectory hplace halone =>
    rw [hdirectory] at hopened
    obtain rfl : _ = place := by simpa using hopened
    exact halone r hr

/-- A depot in which the main repository is as it was still serves. -/
theorem Serving.of_same (hd : d.Serving) (hmain : e.repository main = d.repository main)
    (hfiles : Files.Extends d.files e.files)
    (halone : ∀ r place, r ≠ main → (d.repository main).opened = some (.directory place) →
      (e.repository r).opened ≠ some (.directory place)) : e.Serving := by
  cases hd with
  | memory hpath hopened => exact .memory (hmain ▸ hpath) (hmain ▸ hopened)
  | directory hpath hopened hplace _ =>
    refine .directory (hmain ▸ hpath) (hmain ▸ hopened) (Files.find_extends hfiles hplace) ?_
    exact fun r hr => halone r _ hr hopened

theorem committed_of_same (hmain : e.repository main = d.repository main)
    (hsaved : ∀ place, (d.repository main).opened = some (.directory place) →
      e.saved.lookup place = d.saved.lookup place) : e.committed = d.committed := by
  unfold committed data?
  rw [hmain]
  split
  · rfl
  · rfl
  · next place hopened => rw [hsaved place hopened]

/-- Every flush succeeds. -/
def Flushes (d : Depot) : Prop := d.flushes = []

/-- Every transaction and every flush succeeds. -/
def IsSound (d : Depot) : Prop := d.failures = [] ∧ d.Flushes

/-! ## Changes of a depot -/

/-- A change that has to do with some clients only and keeps the main repository open. -/
structure Leaves (own : Nat → Prop) (d e : Depot) : Prop where
  serving : e.Serving
  flushes : e.flushes <:+ d.flushes
  clients : d.clients.length ≤ e.clients.length
  repository : ∀ k, k < d.clients.length → (e.client k).repository = (d.client k).repository
  others : ∀ k, k < d.clients.length → ¬ own k → e.client k = d.client k

/-- A change that moreover leaves the committed data alone. -/
structure Apart (own : Nat → Prop) (d e : Depot) : Prop extends Leaves own d e where
  committed : e.committed = d.committed

/-- A change by a client of the main repository, with the committed data and the writes that the
client has staged after it.  It makes no other client. -/
structure Becomes (k : Nat) (d e : Depot) (data : Dataset) (staged : List Staged) : Prop
    extends Leaves (· = k) d e where
  alone : e.clients.length = d.clients.length
  committed : e.committed = data
  staged : (e.client k).staged = staged

variable {own : Nat → Prop}

theorem Leaves.refl (hd : d.Serving) : Leaves own d d :=
  ⟨hd, List.suffix_rfl, Nat.le_refl _, fun _ _ => rfl, fun _ _ _ => rfl⟩

theorem Leaves.keepsFlushes (hleaves : Leaves own d e) (hd : d.Flushes) : e.Flushes := by
  have hnone := hleaves.flushes
  rw [hd] at hnone
  exact List.suffix_nil.mp hnone

/-- Changes that follow each other.  The second one may have to do with clients that were not there
before the first one. -/
theorem Leaves.then {other : Nat → Prop} (hfirst : Leaves own d e) (hsecond : Leaves other e f)
    (hother : ∀ k, k < d.clients.length → other k → own k) : Leaves own d f where
  serving := hsecond.serving
  flushes := hsecond.flushes.trans hfirst.flushes
  clients := Nat.le_trans hfirst.clients hsecond.clients
  repository := by
    intro k hk
    have hk' := Nat.lt_of_lt_of_le hk hfirst.clients
    exact (hsecond.repository k hk').trans (hfirst.repository k hk)
  others := by
    intro k hk hown
    have hk' := Nat.lt_of_lt_of_le hk hfirst.clients
    have hne : ¬ other k := fun h => hown (hother k hk h)
    exact (hsecond.others k hk' hne).trans (hfirst.others k hk hown)

theorem Leaves.trans (hfirst : Leaves own d e) (hsecond : Leaves own e f) : Leaves own d f :=
  hfirst.then hsecond fun _ _ h => h

theorem Leaves.mono {wider : Nat → Prop} (hleaves : Leaves own d e)
    (hwider : ∀ k, k < d.clients.length → own k → wider k) : Leaves wider d e where
  serving := hleaves.serving
  flushes := hleaves.flushes
  clients := hleaves.clients
  repository := hleaves.repository
  others := fun k hk hown => hleaves.others k hk fun h => hown (hwider k hk h)

theorem Apart.refl (hd : d.Serving) : Apart own d d := ⟨.refl hd, rfl⟩

theorem Apart.then {other : Nat → Prop} (hfirst : Apart own d e) (hsecond : Apart other e f)
    (hother : ∀ k, k < d.clients.length → other k → own k) : Apart own d f :=
  ⟨hfirst.toLeaves.then hsecond.toLeaves hother, hsecond.committed.trans hfirst.committed⟩

theorem Apart.trans (hfirst : Apart own d e) (hsecond : Apart own e f) : Apart own d f :=
  hfirst.then hsecond fun _ _ h => h

/-- A change of the list of clients and of the number of blank nodes, and of nothing else. -/
theorem apart_of_clients (hd : d.Serving) {clients : List Client} {blanks : Nat}
    (hlength : d.clients.length ≤ clients.length)
    (hrepository : ∀ k, k < d.clients.length →
      (clients.getD k default).repository = (d.client k).repository)
    (hothers : ∀ k, k < d.clients.length → ¬ own k → clients.getD k default = d.client k) :
    Apart own d { d with clients, blanks } where
  serving := hd.of_same rfl (.refl _) fun _ _ hr hopened => hd.alone hopened hr
  flushes := List.suffix_rfl
  clients := hlength
  repository := hrepository
  others := hothers
  committed := rfl

theorem apart_stage (hd : d.Serving) (hown : own k) {g : Client → Client}
    (hg : ∀ c, (g c).repository = c.repository) (blanks : Nat) :
    Apart own d { d with clients := d.clients.modify k g, blanks } := by
  refine apart_of_clients hd (by simp) ?_ ?_
  · intro j hj
    by_cases hjk : j = k
    · subst hjk
      exact (congrArg Client.repository (client_updateClient_self hj g)).trans (hg _)
    · exact congrArg Client.repository (client_updateClient_ne hjk g)
  · intro j _ hj
    have hjk : j ≠ k := fun heq => hj (heq ▸ hown)
    exact client_updateClient_ne hjk g

theorem apart_updateClient (hd : d.Serving) (hown : own k) {g : Client → Client}
    (hg : ∀ c, (g c).repository = c.repository) : Apart own d (d.updateClient k g) :=
  apart_stage hd hown hg d.blanks

theorem becomes_stage (hd : d.Serving) (hk : k < d.clients.length) {g : Client → Client}
    (hg : ∀ c, (g c).repository = c.repository) (blanks : Nat) :
    Becomes k d { d with clients := d.clients.modify k g, blanks } d.committed
      (g (d.client k)).staged := by
  have hapart : Apart (· = k) d { d with clients := d.clients.modify k g, blanks } :=
    apart_stage hd (by rfl) hg blanks
  refine ⟨hapart.toLeaves, by simp, hapart.committed, ?_⟩
  change ((d.updateClient k g).client k).staged = _
  rw [client_updateClient_self hk]

theorem becomes_updateClient (hd : d.Serving) (hk : k < d.clients.length) {g : Client → Client}
    (hg : ∀ c, (g c).repository = c.repository) :
    Becomes k d (d.updateClient k g) d.committed (g (d.client k)).staged :=
  becomes_stage hd hk hg d.blanks

/-- What transactions and flushes meet with may be used up. -/
theorem apart_of_failures (own : Nat → Prop) (hd : d.Serving) (failures : List (Option String))
    {flushes : List (Option String)} (hflushes : flushes <:+ d.flushes) :
    Apart own d { d with failures, flushes } where
  serving := hd.of_same rfl (.refl _) fun _ _ hr hopened => hd.alone hopened hr
  flushes := hflushes
  clients := Nat.le_refl _
  repository := fun _ _ => rfl
  others := fun _ _ _ => rfl
  committed := rfl

theorem apart_spend (own : Nat → Prop) (hd : d.Serving) : Apart own d d.spend :=
  apart_of_failures own hd _ List.suffix_rfl

theorem apart_spendFlush (own : Nat → Prop) (hd : d.Serving) : Apart own d d.spendFlush :=
  apart_of_failures own hd _ (List.tail_suffix _)

/-- A new client of a repository that nobody knows yet. -/
theorem apart_addClient (own : Nat → Prop) (hd : d.Serving) (r : Nat) :
    Apart own d (d.addClient r).2 := by
  have hold : ∀ k, k < d.clients.length →
      (d.clients ++ [({ repository := r } : Client)]).getD k default = d.client k := by
    intro k hk
    simp [client, List.getD_eq_getElem?_getD, List.getElem?_append_left hk]
  refine apart_of_clients hd (by simp) ?_ ?_
  · intro k hk
    rw [hold k hk]
  · intro k hk _
    exact hold k hk

theorem client_addClient (d : Depot) (r : Nat) :
    (d.addClient r).2.client d.clients.length = { repository := r } := by
  simp [client, addClient, List.getD_eq_getElem?_getD]

/-- The data of an open repository are those that it was given last. -/
theorem data?_setData (hopen : (d.repository r).opened.isSome = true) (data : Dataset) :
    (d.setData r data).data? r = some data := by
  obtain ⟨opened, hopened⟩ := Option.isSome_iff_exists.mp hopen
  cases opened with
  | memory before =>
    have hset : d.setData r data = d.setOpened r (some (.memory data)) := by
      simp only [setData, hopened]
    rw [hset, data?, repository_setOpened_self (lt_of_opened hopened)]
  | directory place =>
    have hset : d.setData r data = d.save place data := by
      simp only [setData, hopened]
    have hopened' : ((d.save place data).repository r).opened = some (.directory place) := hopened
    have hlookup := lookup_replace place place data d.saved
    simp only [beq_self_eq_true, if_true] at hlookup
    rw [hset, data?, hopened']
    exact congrArg (fun found : Option Dataset => some (found.getD .empty)) hlookup

/-- Replacing the data of the main repository replaces what is committed. -/
theorem leaves_setData_main (own : Nat → Prop) (hd : d.Serving) (data : Dataset) :
    Leaves own d (d.setData main data) ∧ (d.setData main data).committed = data := by
  have hcommitted : (d.setData main data).committed = data := by
    rw [committed, data?_setData hd.isOpen]
    rfl
  refine ⟨?_, hcommitted⟩
  cases hd with
  | @memory before hpath hopened =>
    have hset : d.setData main data = d.setOpened main (some (.memory data)) := by
      simp only [setData, hopened]
    have hopened' : ((d.setData main data).repository main).opened = some (.memory data) := by
      rw [hset, repository_setOpened_self (lt_of_opened hopened)]
    have hpath' : ((d.setData main data).repository main).path = none := by
      rw [hset, path_setOpened, hpath]
    refine ⟨.memory hpath' hopened', by simp, by simp, ?_, ?_⟩
    · intro k _
      simp [client]
    · intro k _ _
      simp [client]
  | @directory path place hpath hopened hplace halone =>
    have hset : d.setData main data = d.save place data := by
      simp only [setData, hopened]
    rw [hset]
    exact ⟨.directory hpath hopened hplace halone, List.suffix_rfl, Nat.le_refl _,
      fun _ _ => rfl, fun _ _ _ => rfl⟩

/-! ## What the parts of work do -/

variable {α β : Type} {s t : Depot × List Record}

@[simp] theorem Work.depot_apply : depot s = (.ok s.1, s) := rfl

@[simp] theorem Work.modifyDepot_apply (g : Depot → Depot) :
    modifyDepot g s = (.ok (), (g s.1, s.2)) := rfl

@[simp] theorem Work.setDepot_apply (d : Depot) : setDepot d s = (.ok (), (d, s.2)) := rfl

@[simp] theorem Work.lift_apply (result : Except Fault α) : lift result s = (result, s) := rfl

@[simp] theorem Work.relabel_apply (g : Fault → Fault) (work : Work α) :
    work.relabel g s = ((work s).1.mapError g, (work s).2) := rfl

theorem Work.attempt_apply (failure? : Depot → Option String) (spend : Depot → Depot)
    (fault : String → Fault) :
    attempt failure? spend fault s =
      (match failure? s.1 with
        | none => .ok ()
        | some reason => .error (fault reason),
        (spend s.1, s.2)) := by
  unfold attempt
  rw [Effect.bind_apply, depot_apply]
  dsimp only
  rw [Effect.bind_apply, modifyDepot_apply]
  cases failure? s.1 <;> rfl

theorem Work.transact_apply (fault : String → Fault) :
    transact fault s =
      (match s.1.failure? with
        | none => .ok ()
        | some reason => .error (fault reason),
        (s.1.spend, s.2)) :=
  attempt_apply _ _ fault

theorem Work.flushOut_apply (fault : String → Fault) :
    flushOut fault s =
      (match s.1.flushFailure? with
        | none => .ok ()
        | some reason => .error (fault reason),
        (s.1.spendFlush, s.2)) :=
  attempt_apply _ _ fault

/-- Work goes on after a note that names the repository of a client. -/
theorem noteNamed_apply (k : Nat) (level : Level) (message : String → String)
    (next : Unit → Work α) :
    ∃ records, (do note level (message (← nameOf k)); next ()) s = next () (s.1, records) :=
  ⟨_, rfl⟩

/-! ## Clients of the main repository -/

/-- Work of a client of the main repository returns a result, and this is what becomes of the
committed data and of the writes that the client has staged. -/
def Does (k : Nat) (work : Work α) (s : Depot × List Record) (result : Except Fault α)
    (data : Dataset) (staged : List Staged) : Prop :=
  ∃ t, work s = (result, t) ∧ Becomes k s.1 t.1 data staged

/-- The main repository is open and this client is one of its clients. -/
structure Serves (d : Depot) (k : Nat) : Prop where
  serving : d.Serving
  exist : k < d.clients.length
  repository : (d.client k).repository = main

theorem Leaves.serves (hleaves : Leaves own d e) (hk : d.Serves k) : e.Serves k where
  serving := hleaves.serving
  exist := Nat.lt_of_lt_of_le hk.exist hleaves.clients
  repository := (hleaves.repository k hk.exist).trans hk.repository

theorem Serves.refl (hk : d.Serves k) : Becomes k d d d.committed (d.client k).staged :=
  ⟨.refl hk.serving, rfl, rfl, rfl⟩

theorem initialize_main (hs : s.1.Serving) : initialize_ main s = (.ok (), s) := by
  unfold initialize_
  rw [Effect.bind_apply, depot_apply]
  simp only [if_pos hs.isOpen]
  rfl

theorem data_main (hs : s.1.Serving) : data main s = (.ok s.1.committed, s) := by
  unfold data
  rw [Effect.bind_apply, initialize_main hs]
  rfl

theorem connect_apply (hk : s.1.Serves k) :
    connect k s = (.ok (), (s.1.updateClient k ({ · with connected := true }), s.2)) := by
  unfold connect
  rw [Effect.bind_apply, depot_apply]
  simp only [hk.repository]
  rw [Effect.bind_apply, initialize_main hk.serving]
  rfl

theorem does_connect (hk : s.1.Serves k) :
    Does k (connect k) s (.ok ()) s.1.committed (s.1.client k).staged :=
  ⟨_, connect_apply hk, becomes_updateClient hk.serving hk.exist fun _ => rfl⟩

/-- To find its data, a client connects if it must; no transaction is needed for that. -/
theorem clientData_main (hk : s.1.Serves k) :
    ∃ t, clientData k s = (.ok s.1.committed, t) ∧ t.1.failures = s.1.failures ∧
      Becomes k s.1 t.1 s.1.committed (s.1.client k).staged := by
  unfold clientData
  rw [Effect.bind_apply, depot_apply]
  simp only [hk.repository]
  cases (s.1.client k).connected with
  | true => exact ⟨s, data_main hk.serving, rfl, hk.refl⟩
  | false =>
    have hbecomes : Becomes k s.1 (s.1.updateClient k ({ · with connected := true }))
        s.1.committed (s.1.client k).staged :=
      becomes_updateClient hk.serving hk.exist fun _ => rfl
    simp only [Bool.not_false, if_true, Effect.bind_apply, connect_apply hk]
    refine ⟨(s.1.updateClient k ({ · with connected := true }), s.2), ?_, rfl, hbecomes⟩
    rw [data_main hbecomes.serving, hbecomes.committed]

theorem does_rollback (hk : s.1.Serves k) : Does k (rollback k) s (.ok ()) s.1.committed [] :=
  ⟨_, rfl, becomes_updateClient hk.serving hk.exist fun _ => rfl⟩

/-- To disconnect is to drop what is staged, whatever is told about it. -/
theorem disconnect_apply (k : Nat) (s : Depot × List Record) :
    ∃ records, disconnect k s =
      (.ok (), (s.1.updateClient k ({ · with staged := [], connected := false }), records)) := by
  unfold disconnect
  rw [Effect.bind_apply, depot_apply]
  dsimp only
  split
  · exact ⟨_, rfl⟩
  · exact ⟨_, rfl⟩

theorem invalidate_apply (k : Nat) (s : Depot × List Record) :
    ∃ records, invalidate k s =
      (.ok (), (s.1.updateClient k ({ · with staged := [], connected := false }), records)) := by
  unfold invalidate
  rw [Effect.bind_apply, depot_apply]
  dsimp only
  split
  · obtain ⟨records, hnoted⟩ := noteNamed_apply (s := s) k .warning
      (fun name => "invalidating a client of " ++ name ++ " with " ++
        toString (s.1.client k).staged.length ++ " uncommitted writes") fun _ => disconnect k
    rw [hnoted]
    exact disconnect_apply k (s.1, records)
  · exact disconnect_apply k s

theorem does_disconnect (hk : s.1.Serves k) :
    Does k (disconnect k) s (.ok ()) s.1.committed [] := by
  obtain ⟨records, hdisconnect⟩ := disconnect_apply k s
  exact ⟨_, hdisconnect, becomes_updateClient hk.serving hk.exist fun _ => rfl⟩

theorem does_invalidate (hk : s.1.Serves k) :
    Does k (invalidate k) s (.ok ()) s.1.committed [] := by
  obtain ⟨records, hinvalidate⟩ := invalidate_apply k s
  exact ⟨_, hinvalidate, becomes_updateClient hk.serving hk.exist fun _ => rfl⟩

/-- Why a commit fails, if it does.  Without writes there is no transaction. -/
def refusal? (d : Depot) (k : Nat) : Option String :=
  if (d.client k).staged = [] then none else d.failure?

/-- What a commit comes to once the client has its data: the transaction and what follows it. -/
theorem commit_attempts (hk : s.1.Serves k) (hstaged : (s.1.client k).staged ≠ []) :
    ∃ t, t.1.failures = s.1.failures ∧ Becomes k s.1 t.1 s.1.committed (s.1.client k).staged ∧
      commit k s = (do
        transact .commit
        modifyDepot (·.setData main (s.1.committed.applyAll (s.1.client k).staged))
        note .debug ("committed " ++ toString (s.1.client k).staged.length ++ " writes to " ++
          (← nameOf k))
        rollback k : Work Unit) t := by
  obtain ⟨t, hdata, hfailures, hread⟩ := clientData_main hk
  refine ⟨t, hfailures, hread, ?_⟩
  unfold commit
  rw [Effect.bind_apply, depot_apply]
  simp only [List.isEmpty_iff, if_neg hstaged]
  rw [Effect.bind_apply, relabel_apply, hdata]
  simp only [Except.mapError, hk.repository]

/-- All staged writes are applied at once and in order. -/
theorem does_commit (hk : s.1.Serves k) (hsucceeds : s.1.refusal? k = none) :
    Does k (commit k) s (.ok ()) (s.1.committed.applyAll (s.1.client k).staged) [] := by
  -- with nothing staged no transaction is begun
  by_cases hstaged : (s.1.client k).staged = []
  · have hsame := hk.refl
    rw [hstaged] at hsame ⊢
    refine ⟨s, ?_, hsame⟩
    unfold commit
    rw [Effect.bind_apply, depot_apply]
    simp only [List.isEmpty_iff, if_pos hstaged]
    rfl
  · obtain ⟨t, hfailures, hread, hcommit⟩ := commit_attempts hk hstaged
    have hnone : t.1.failure? = none := by
      rw [refusal?, if_neg hstaged] at hsucceeds
      rw [failure?, hfailures]
      exact hsucceeds
    have hspent := apart_spend (· = k) hread.serving
    obtain ⟨hset, hcommitted⟩ := leaves_setData_main (· = k) hspent.serving
      (s.1.committed.applyAll (s.1.client k).staged)
    have hleaves := (hread.toLeaves.trans hspent.toLeaves).trans hset
    unfold Does
    rw [hcommit, Effect.bind_apply, transact_apply, hnone]
    dsimp only
    rw [Effect.bind_apply, modifyDepot_apply]
    dsimp only
    obtain ⟨records, hnoted⟩ := noteNamed_apply
      (s := (t.1.spend.setData main (s.1.committed.applyAll (s.1.client k).staged), t.2)) k .debug
      (fun name => "committed " ++ toString (s.1.client k).staged.length ++ " writes to " ++ name)
      fun _ => rollback k
    rw [hnoted]
    obtain ⟨v, hrollback, hclear⟩ := does_rollback (s := (_, records)) (hleaves.serves hk)
    have halone : v.1.clients.length = s.1.clients.length := calc
      v.1.clients.length = (t.1.spend.setData main _).clients.length := hclear.alone
      _ = t.1.clients.length := by rw [clients_setData]; rfl
      _ = s.1.clients.length := hread.alone
    exact ⟨v, hrollback, hleaves.trans hclear.toLeaves, halone, hclear.committed.trans hcommitted,
      hclear.staged⟩

/-- A transaction that fails leaves the data and the staged writes as they were. -/
theorem does_commit_refused {reason : String} (hk : s.1.Serves k)
    (hfails : s.1.refusal? k = some reason) :
    Does k (commit k) s (.error (.commit reason)) s.1.committed (s.1.client k).staged := by
  have hstaged : (s.1.client k).staged ≠ [] := by
    intro hnil
    rw [refusal?, if_pos hnil] at hfails
    contradiction
  obtain ⟨t, hfailures, hread, hcommit⟩ := commit_attempts hk hstaged
  have hsome : t.1.failure? = some reason := by
    rw [refusal?, if_neg hstaged] at hfails
    rw [failure?, hfailures]
    exact hfails
  have hspent := apart_spend (· = k) hread.serving
  refine ⟨(t.1.spend, t.2), ?_, hread.toLeaves.trans hspent.toLeaves, hread.alone,
    hspent.committed.trans hread.committed, hread.staged⟩
  rw [hcommit, Effect.bind_apply, transact_apply, hsome]

/-- A depot in which a repository was closed, and flushed if it is kept in a directory. -/
def shut (d : Depot) (r : Nat) : Depot :=
  if (d.repository r).path.isSome then (d.setOpened r none).spendFlush else d.setOpened r none

/-- Why an open repository is not shut down properly, if it is not: it could not be flushed. -/
def unflushed? (d : Depot) (r : Nat) : Option String :=
  if (d.repository r).path.isSome then d.flushFailure? else none

theorem Flushes.unflushed? (hd : d.Flushes) (r : Nat) : d.unflushed? r = none := by
  have hnone : d.flushFailure? = none := by
    rw [flushFailure?, hd]
    rfl
  rw [Depot.unflushed?, hnone, ite_self]

/-- With nothing left to meet with, a repository is just closed. -/
theorem Flushes.shut_eq (hd : d.Flushes) (r : Nat) : d.shut r = d.setOpened r none := by
  have hspent : (d.setOpened r none).spendFlush = d.setOpened r none := by
    obtain ⟨files, saved, repositories, clients, blanks, failures, flushes⟩ := d
    obtain rfl : flushes = [] := hd
    rfl
  rw [shut, hspent, ite_self]

/-- An open repository is closed in any case. -/
theorem shutDown_apply (hopened : (s.1.repository r).opened.isSome = true) :
    ∃ records, shutDown r s =
      (match s.1.unflushed? r with
        | none => .ok ()
        | some reason => .error (.connection
            ("cannot flush repository " ++ (s.1.repository r).name ++ ": " ++ reason)),
        (s.1.shut r, records)) := by
  unfold shutDown unflushed? shut
  rw [Effect.bind_apply, depot_apply]
  simp only [if_pos hopened]
  rw [Effect.bind_apply, modifyDepot_apply]
  cases (s.1.repository r).path.isSome with
  | false => exact ⟨_, rfl⟩
  | true =>
    simp only [if_true, Effect.bind_apply, flushOut_apply]
    have hfailure : (s.1.setOpened r none).flushFailure? = s.1.flushFailure? := rfl
    rw [hfailure]
    cases s.1.flushFailure? <;> exact ⟨_, rfl⟩

/-- A repository whose directory is there and in nobody's use is opened in it. -/
theorem initialize_directory {path : String} {place : Files.Place}
    (hclosed : (s.1.repository r).opened = none) (hpath : (s.1.repository r).path = some path)
    (hplace : s.1.files.find path = .ok (place, .directory)) (hfree : s.1.isInUse place = false) :
    ∃ records, initialize_ r s =
      (.ok (), (s.1.setOpened r (some (.directory place)), records)) := by
  have hopen : openDirectory r path s = (.ok (.directory place), s) := by
    unfold openDirectory
    rw [Effect.bind_apply, depot_apply]
    simp only [Files.makeDirectories_of_find hplace]
    rw [Effect.bind_apply, setDepot_apply]
    simp only [hplace, hfree, Bool.false_eq_true, if_false]
    rfl
  unfold initialize_
  rw [Effect.bind_apply, depot_apply]
  simp only [hclosed, Option.isSome_none, Bool.false_eq_true, if_false, hpath]
  rw [Effect.bind_apply, hopen]
  exact ⟨_, rfl⟩

/-- While a repository is closed, the directory that it alone had open is in nobody's use. -/
theorem closed_free {place : Files.Place}
    (halone : ∀ other, other ≠ r → (d.repository other).opened ≠ some (.directory place)) :
    ((d.setOpened r none).repository r).opened = none ∧
      (d.setOpened r none).isInUse place = false := by
  refine ⟨opened_setOpened_none r, isInUse_eq_false_iff.mpr fun other => ?_⟩
  by_cases hother : other = r
  · rw [hother, opened_setOpened_none]
    simp
  · rw [repository_setOpened_ne hother]
    exact halone other hother

/-- A flushed repository is closed and found again as it was. -/
theorem does_flush (hk : s.1.Serves k) (hsucceeds : s.1.unflushed? main = none) :
    Does k (flush k) s (.ok ()) s.1.committed (s.1.client k).staged := by
  unfold Does flush
  rw [Effect.bind_apply, depot_apply]
  simp only [hk.repository]
  cases hk.serving with
  | memory hpath hopened =>
    simp only [Repository.durability, hpath]
    exact ⟨s, rfl, hk.refl⟩
  | @directory path place hpath hopened hplace halone =>
    simp only [Repository.durability, hpath]
    obtain ⟨records, hnoted⟩ := noteNamed_apply (s := s) k .info
      (fun name => "flushing repository " ++ name ++ " to disk") fun _ => do
        (shutDown main).relabel fun f => .flush ("shutdown failed: " ++ f.message)
        (initialize_ main).relabel fun f => .flush ("reinitialization failed: " ++ f.message)
    rw [hnoted]
    obtain ⟨records', hshut⟩ := shutDown_apply (s := (s.1, records)) (r := main)
      (by rw [hopened]; rfl)
    -- what the flush meets with is used up while the repository is closed
    have hspent : s.1.shut main = s.1.spendFlush.setOpened main none := by
      unfold shut
      rw [hpath]
      rfl
    obtain ⟨hclosed, hfree⟩ := closed_free (d := s.1.spendFlush) halone
    have hpath' : ((s.1.spendFlush.setOpened main none).repository main).path = some path := by
      rw [path_setOpened]
      exact hpath
    obtain ⟨records'', hinitialize⟩ := initialize_directory (r := main)
      (s := (s.1.spendFlush.setOpened main none, records')) hclosed hpath' hplace hfree
    rw [Effect.bind_apply, relabel_apply, hshut, hsucceeds, hspent]
    simp only [Except.mapError]
    rw [relabel_apply, hinitialize, setOpened_setOpened,
      setOpened_self (d := s.1.spendFlush) hopened]
    have hapart := apart_spendFlush (· = k) hk.serving
    exact ⟨_, rfl, hapart.toLeaves, rfl, hapart.committed, rfl⟩

/-- An accepted write is staged behind the others, a refused one changes nothing. -/
theorem does_write [Document.Fetcher] (hk : s.1.Serves k) (w : Write) :
    (∃ staged blanks, s.1.changes w = .ok (staged, blanks) ∧
      Does k (write k w) s (.ok ()) s.1.committed ((s.1.client k).staged ++ staged)) ∨
    ∃ f, s.1.changes w = .error f ∧ write k w s = (.error f, s) := by
  unfold Does write
  rw [Effect.bind_apply, depot_apply]
  simp only [Effect.bind_apply, lift_apply]
  rcases s.1.changes w with f | ⟨staged, blanks⟩
  · exact Or.inr ⟨f, rfl, rfl⟩
  · left
    refine ⟨staged, blanks, rfl, ?_⟩
    have hstage := becomes_stage hk.serving hk.exist
      (g := fun c => { c with staged := c.staged ++ staged }) (fun _ => rfl) (s.1.blanks + blanks)
    cases w <;> exact ⟨_, rfl, hstage⟩

/-! ## Queries of the main repository -/

section

variable [Engine]

/-- Rows and verdicts depend on the quads alone, in whatever order they are kept. -/
theorem rowsOf_perm (text : String) (q : Engine.Query) {quads others : List Quad}
    (hquads : quads.Perm others) : rowsOf text q quads = rowsOf text q others := by
  unfold rowsOf
  rw [Engine.evaluate_perm q hquads]

theorem verdictOf_perm (text : String) (q : Engine.Query) {quads others : List Quad}
    (hquads : quads.Perm others) : verdictOf text q quads = verdictOf text q others := by
  unfold verdictOf
  rw [Engine.evaluate_perm q hquads]

/-- What a query is answered from some data. -/
def solveBy (answerOf : String → Engine.Query → List Quad → Except Fault α) (text : String)
    (data : Dataset) : Except Fault α :=
  query? text >>= fun q => answerOf text q data.quads

/-- What a query for rows is answered from some data. -/
def solve (text : String) (data : Dataset) : Except Fault (List Row) := solveBy rowsOf text data

/-- What a question for yes or no is answered from some data. -/
def solveAsk (text : String) (data : Dataset) : Except Fault Bool := solveBy verdictOf text data

theorem solve_perm {first second : Dataset} (hquads : first.quads.Perm second.quads)
    (text : String) : solve text first = solve text second ∧
      solveAsk text first = solveAsk text second := by
  unfold solve solveAsk solveBy
  simp only [rowsOf_perm text _ hquads, verdictOf_perm text _ hquads, and_self]

/-- A query is answered from the committed data alone. -/
theorem does_query (hk : s.1.Serves k)
    (answerOf : String → Engine.Query → List Quad → Except Fault α) (text : String) :
    Does k (query k answerOf text) s (solveBy answerOf text s.1.committed) s.1.committed
      (s.1.client k).staged := by
  unfold Does query solveBy
  rw [Effect.bind_apply, lift_apply]
  cases query? text with
  | error f => exact ⟨s, rfl, hk.refl⟩
  | ok q =>
    obtain ⟨t, hdata, -, hread⟩ := clientData_main hk
    simp only [Effect.bind_apply, hdata, lift_apply]
    exact ⟨t, rfl, hread⟩

end

/-! ## New clients of the main repository -/

theorem serves_addClient {d : Depot} (hd : d.Serving) :
    (d.addClient main).2.Serves d.clients.length := by
  refine ⟨(apart_addClient (fun _ => False) hd main).serving, by simp [addClient], ?_⟩
  rw [client_addClient]

/-- While the main repository is open, to make a client is to connect it. -/
theorem connectClient_eq (hs : s.1.Serving)
    (hconnect : connect s.1.clients.length ((s.1.addClient main).2, s.2) = (.ok (), t)) :
    connectClient main s = (.ok s.1.clients.length, t) := by
  unfold connectClient
  rw [Effect.bind_apply, initialize_main hs]
  change ((connect s.1.clients.length >>= fun _ => pure s.1.clients.length) :
    Work Nat) ((s.1.addClient main).2, s.2) = _
  rw [Effect.bind_apply, hconnect]
  rfl

/-- A new client of the main repository has staged nothing. -/
theorem connectClient_main (hs : s.1.Serving) :
    ∃ t, connectClient main s = (.ok s.1.clients.length, t) ∧ (∀ own, Apart own s.1 t.1) ∧
      t.1.Serves s.1.clients.length ∧ (t.1.client s.1.clients.length).staged = [] := by
  have hnew := serves_addClient hs
  obtain ⟨t, hconnect, hconnected⟩ := does_connect (s := ((s.1.addClient main).2, s.2)) hnew
  have hstaged : (t.1.client s.1.clients.length).staged = [] := by
    rw [hconnected.staged, client_addClient]
  refine ⟨t, connectClient_eq hs hconnect, ?_, hconnected.serves hnew, hstaged⟩
  intro own
  have happly : Apart (· = s.1.clients.length) (s.1.addClient main).2 t.1 :=
    ⟨hconnected.toLeaves, hconnected.committed⟩
  exact (apart_addClient own hs main).then happly fun j hj heq => absurd heq (Nat.ne_of_lt hj)

end GraphCommit.Depot
