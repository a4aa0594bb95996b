import GraphCommit.Proofs.Store.History
import GraphCommit.Proofs.Store.Working
import GraphCommit.Query.Engine
import Mathlib.Data.List.DropRight
import Mathlib.Logic.Relation

/-!
# The commit log of a repository

Many clients work on one repository.  Each of them stages its writes for itself, they connect and
disconnect, and a flush even closes the repository and opens it again.  None of this is seen from
outside: the committed data are what the successful commits have made of the initial ones, one batch
after another.  A commit whose transaction fails, or a flush that fails, is not seen from outside
either.

The batch of a client is read off the history alone.  It consists of the changes of the writes that
were accepted from the client since its last successful commit, rollback, disconnect or
invalidation.

The repository need not be open.  `Holds` says which data it has, or will have as soon as somebody
needs it; a call that opens the repository does what it would do if the repository were open.
-/

namespace GraphCommit

/-! ## Repositories that are open or can be opened -/

namespace Depot

variable {d e : Depot} {s t : Depot × List Record} {k : Nat} {data : Dataset}
  {staged : List Staged} {α : Type}

/-- What the main repository has committed: the data with which it is open, or with which it will be
opened when it is needed.  Memory is empty at first, a directory keeps what was saved in it. -/
inductive Holds (d : Depot) (data : Dataset) : Prop
  | open_ (hserving : d.Serving) (hdata : d.committed = data)
  | memory (hexists : main < d.repositories.length) (hclosed : (d.repository main).opened = none)
      (hpath : (d.repository main).path = none) (hdata : data = .empty)
  | directory {path : String} {files : Files} {place : Files.Place}
      (hexists : main < d.repositories.length) (hclosed : (d.repository main).opened = none)
      (hpath : (d.repository main).path = some path)
      (hmake : d.files.makeDirectories path = .ok files)
      (hplace : files.find path = .ok (place, .directory)) (hfree : d.isInUse place = false)
      (hdata : data = (d.saved.lookup place).getD .empty)

/-- Clients come and stage changes, and transactions and flushes meet with something; the data are
the same. -/
theorem Holds.of_clients (hd : d.Holds data) (clients : List Client) (blanks : Nat)
    (failures flushes : List (Option String)) :
    Holds { d with clients, blanks, failures, flushes } data := by
  cases hd with
  | open_ hserving hdata =>
    refine .open_ (hserving.of_same rfl (.refl _) fun _ _ hr hopened => ?_) hdata
    exact hserving.alone hopened hr
  | memory hexists hclosed hpath hdata => exact .memory hexists hclosed hpath hdata
  | directory hexists hclosed hpath hmake hplace hfree hdata =>
    exact .directory hexists hclosed hpath hmake hplace hfree hdata

/-- If the repository is open, it serves, and it holds what is committed. -/
theorem Holds.serving_of_opened {opened : Opened} (hd : d.Holds data)
    (hopened : (d.repository main).opened = some opened) : d.Serving ∧ d.committed = data := by
  cases hd with
  | open_ hserving hdata => exact ⟨hserving, hdata⟩
  | memory _ hclosed _ _ => simp [hopened] at hclosed
  | directory _ hclosed _ _ _ _ _ => simp [hopened] at hclosed

/-- The repository is opened when it is needed, with the data that it holds. -/
theorem Holds.opens (hd : s.1.Holds data) :
    ∃ t, initialize_ main s = (.ok (), t) ∧ t.1.Serving ∧ t.1.committed = data ∧
      t.1.clients = s.1.clients ∧ t.1.failures = s.1.failures := by
  cases hd with
  | open_ hserving hdata => exact ⟨s, initialize_main hserving, hserving, hdata, rfl, rfl⟩
  | memory hexists hclosed hpath hdata =>
    have hrepository := repository_setOpened_self hexists (some (.memory .empty))
    have hopen : ∃ records, initialize_ main s =
        (.ok (), (s.1.setOpened main (some (.memory .empty)), records)) := by
      unfold initialize_
      rw [Effect.bind_apply, Work.depot_apply]
      simp only [hclosed, Option.isSome_none, Bool.false_eq_true, if_false, hpath]
      exact ⟨_, rfl⟩
    obtain ⟨records, hopen⟩ := hopen
    refine ⟨_, hopen, .memory ((path_setOpened _ _).trans hpath) (by rw [hrepository]), ?_, rfl,
      rfl⟩
    simp only [committed, data?, hrepository, Option.getD_some, hdata]
  | @directory path files place hexists hclosed hpath hmake hplace hfree hdata =>
    -- the directory is made if it is not there, and what it holds was saved before
    let u : Depot := { s.1 with files }
    have hrepository := repository_setOpened_self (d := u) hexists (some (.directory place))
    have hdirectory : openDirectory main path s = (.ok (.directory place), (u, s.2)) := by
      unfold openDirectory
      rw [Effect.bind_apply, Work.depot_apply]
      simp only [hmake]
      rw [Effect.bind_apply, Work.setDepot_apply]
      simp only [hplace]
      rw [show isInUse _ place = false from hfree]
      rfl
    have hopen : ∃ records, initialize_ main s =
        (.ok (), (u.setOpened main (some (.directory place)), records)) := by
      unfold initialize_
      rw [Effect.bind_apply, Work.depot_apply]
      simp only [hclosed, Option.isSome_none, Bool.false_eq_true, if_false, hpath]
      rw [Effect.bind_apply, hdirectory]
      exact ⟨_, rfl⟩
    obtain ⟨records, hopen⟩ := hopen
    refine ⟨_, hopen, .directory ((path_setOpened _ _).trans hpath) (by rw [hrepository]) hplace
      ?_, ?_, rfl, rfl⟩
    · intro r hr
      rw [repository_setOpened_ne hr]
      exact isInUse_eq_false_iff.mp hfree r
    · simp only [committed, data?, hrepository, hdata]
      rfl

/-! ## Calls of a client -/

/-- The clients of the main repository. -/
structure HasClient (d : Depot) (k : Nat) : Prop where
  exist : k < d.clients.length
  repository : (d.client k).repository = main

/-- A client of the main repository has done something.  The repository holds these data now, and
the client has staged these changes; no other client has noticed. -/
structure Turns (k : Nat) (d e : Depot) (data : Dataset) (staged : List Staged) : Prop where
  holds : e.Holds data
  alone : e.clients.length = d.clients.length
  repository : ∀ j, j < d.clients.length → (e.client j).repository = (d.client j).repository
  staged : (e.client k).staged = staged
  others : ∀ j, j < d.clients.length → j ≠ k → e.client j = d.client j

/-- Work of a client returns a result and makes such a turn. -/
def Calls (k : Nat) (work : Work α) (s : Depot × List Record) (result : Except Fault α)
    (data : Dataset) (staged : List Staged) : Prop :=
  ∃ u, work s = (result, u) ∧ Turns k s.1 u.1 data staged

theorem Holds.turns (hd : d.Holds data) (k : Nat) : Turns k d d data (d.client k).staged :=
  ⟨hd, rfl, fun _ _ => rfl, rfl, fun _ _ _ => rfl⟩

theorem Becomes.turns (hbecomes : Becomes k d e data staged) : Turns k d e data staged where
  holds := .open_ hbecomes.serving hbecomes.committed
  alone := hbecomes.alone
  repository := hbecomes.repository
  staged := hbecomes.staged
  others := hbecomes.others

/-- A change of the repositories that no client notices. -/
theorem Holds.turns_of_clients (he : e.Holds data) (hclients : e.clients = d.clients) (k : Nat) :
    Turns k d e data (d.client k).staged := by
  have hclient : ∀ j, e.client j = d.client j := by
    intro j
    simp only [client, hclients]
  exact ⟨he, by rw [hclients], fun j _ => by rw [hclient], by rw [hclient], fun j _ _ => hclient j⟩

/-- A change of the client itself. -/
theorem Holds.turns_modify (hd : d.Holds data) (hk : k < d.clients.length) {g : Client → Client}
    (hg : ∀ c, (g c).repository = c.repository) (blanks : Nat) :
    Turns k d { d.updateClient k g with blanks } data (g (d.client k)).staged where
  holds := hd.of_clients _ _ _ _
  alone := by simp [updateClient]
  repository := by
    intro j hj
    by_cases hjk : j = k
    · subst hjk
      exact (congrArg Client.repository (client_updateClient_self hj g)).trans (hg _)
    · exact congrArg Client.repository (client_updateClient_ne hjk g)
  staged := congrArg Client.staged (client_updateClient_self hk g)
  others := fun _ _ hjk => client_updateClient_ne hjk g

/-- What needs an open repository does the same whether it was open before or is opened now. -/
theorem Calls.of_opened {work : Work α} {result : Except Fault α} (hk : s.1.HasClient k)
    (hd : s.1.Holds data)
    (hsame : ∀ t, initialize_ main s = (.ok (), t) → t.1.Serves k →
      t.1.client k = s.1.client k → work s = work t)
    {after : Dataset} (hdoes : ∀ t : Depot × List Record, t.1.Serves k → t.1.committed = data →
      t.1.client k = s.1.client k → t.1.failures = s.1.failures →
      Does k work t result after staged) :
    Calls k work s result after staged := by
  obtain ⟨t, hopen, hserving, hdata, hclients, hfailures⟩ := hd.opens
  have hclient : ∀ j, t.1.client j = s.1.client j := by
    intro j
    simp only [client, hclients]
  have hserves : t.1.Serves k :=
    ⟨hserving, by rw [hclients]; exact hk.exist, by rw [hclient]; exact hk.repository⟩
  obtain ⟨u, hwork, hbecomes⟩ := hdoes t hserves hdata (hclient k) hfailures
  refine ⟨u, (hsame t hopen hserves (hclient k)).trans hwork, ?_⟩
  refine ⟨.open_ hbecomes.serving hbecomes.committed, ?_, ?_, hbecomes.staged, ?_⟩
  · rw [← hclients]
    exact hbecomes.alone
  · intro j hj
    rw [hbecomes.repository j (by rw [hclients]; exact hj), hclient]
  · intro j hj hjk
    rw [hbecomes.others j (by rw [hclients]; exact hj) hjk, hclient]

theorem connect_opened (hk : (s.1.client k).repository = main)
    (hopen : initialize_ main s = (.ok (), t)) (ht : t.1.Serves k) : connect k s = connect k t := by
  unfold connect
  rw [Effect.bind_apply, Effect.bind_apply, Work.depot_apply, Work.depot_apply]
  simp only [hk, ht.repository]
  rw [Effect.bind_apply, Effect.bind_apply, hopen, initialize_main ht.serving]

theorem clientData_opened (hk : (s.1.client k).repository = main)
    (hopen : initialize_ main s = (.ok (), t)) (ht : t.1.Serves k)
    (hclient : t.1.client k = s.1.client k) : clientData k s = clientData k t := by
  unfold clientData
  rw [Effect.bind_apply, Effect.bind_apply, Work.depot_apply, Work.depot_apply]
  simp only [hclient, hk]
  cases (s.1.client k).connected with
  | false =>
    simp only [Bool.not_false, if_true, Effect.bind_apply, connect_opened hk hopen ht]
  | true =>
    have hdata : data main s = data main t := by
      unfold data
      rw [Effect.bind_apply, Effect.bind_apply, hopen, initialize_main ht.serving]
    exact hdata

theorem calls_connect (hk : s.1.HasClient k) (hd : s.1.Holds data) :
    Calls k (connect k) s (.ok ()) data (s.1.client k).staged := by
  refine Calls.of_opened hk hd (fun t hopen ht _ => connect_opened hk.repository hopen ht) ?_
  intro t ht hdata hclient _
  rw [← hdata, ← hclient]
  exact does_connect ht

theorem calls_rollback (hk : s.1.HasClient k) (hd : s.1.Holds data) :
    Calls k (rollback k) s (.ok ()) data [] :=
  ⟨_, rfl, hd.turns_modify hk.exist (g := ({ · with staged := [] })) (fun _ => rfl) s.1.blanks⟩

theorem calls_disconnect (hk : s.1.HasClient k) (hd : s.1.Holds data) :
    Calls k (disconnect k) s (.ok ()) data [] := by
  obtain ⟨records, hdisconnect⟩ := disconnect_apply k s
  exact ⟨_, hdisconnect, hd.turns_modify hk.exist
    (g := ({ · with staged := [], connected := false })) (fun _ => rfl) s.1.blanks⟩

theorem calls_invalidate (hk : s.1.HasClient k) (hd : s.1.Holds data) :
    Calls k (invalidate k) s (.ok ()) data [] := by
  obtain ⟨records, hinvalidate⟩ := invalidate_apply k s
  exact ⟨_, hinvalidate, hd.turns_modify hk.exist
    (g := ({ · with staged := [], connected := false })) (fun _ => rfl) s.1.blanks⟩

/-- A commit without changes does not even look at the repository. -/
theorem commit_nothing (hnone : (s.1.client k).staged = []) : commit k s = (.ok (), s) := by
  unfold commit
  rw [Effect.bind_apply, Work.depot_apply]
  simp only [hnone]
  rfl

/-- A commit of changes opens the repository before anything else. -/
theorem commit_opened (hk : (s.1.client k).repository = main)
    (hstaged : (s.1.client k).staged ≠ []) (hopen : initialize_ main s = (.ok (), t))
    (ht : t.1.Serves k) (hclient : t.1.client k = s.1.client k) : commit k s = commit k t := by
  unfold commit
  rw [Effect.bind_apply, Effect.bind_apply, Work.depot_apply, Work.depot_apply]
  simp only [hclient, List.isEmpty_iff, if_neg hstaged]
  rw [Effect.bind_apply, Effect.bind_apply, Work.relabel_apply, Work.relabel_apply,
    clientData_opened hk hopen ht hclient]

/-- Why a commit fails depends on the staged changes and on what transactions meet with. -/
theorem refusal?_of_same (hclient : t.1.client k = s.1.client k)
    (hfailures : t.1.failures = s.1.failures) : t.1.refusal? k = s.1.refusal? k := by
  simp only [refusal?, failure?, hclient, hfailures]

theorem calls_commit (hk : s.1.HasClient k) (hd : s.1.Holds data)
    (hsucceeds : s.1.refusal? k = none) :
    Calls k (commit k) s (.ok ()) (data.applyAll (s.1.client k).staged) [] := by
  by_cases hstaged : (s.1.client k).staged = []
  · have hsame := hd.turns k
    rw [hstaged] at hsame ⊢
    exact ⟨s, commit_nothing hstaged, hsame⟩
  · refine Calls.of_opened hk hd (fun t => commit_opened hk.repository hstaged) ?_
    intro t ht hdata hclient hfailures
    have hcommit := does_commit ht ((refusal?_of_same hclient hfailures).trans hsucceeds)
    rw [hdata, hclient] at hcommit
    exact hcommit

/-- A commit that fails leaves the data and the staged changes as they were. -/
theorem calls_commit_refused {reason : String} (hk : s.1.HasClient k) (hd : s.1.Holds data)
    (hfails : s.1.refusal? k = some reason) :
    Calls k (commit k) s (.error (.commit reason)) data (s.1.client k).staged := by
  have hstaged : (s.1.client k).staged ≠ [] := by
    intro hnil
    rw [refusal?, if_pos hnil] at hfails
    contradiction
  refine Calls.of_opened hk hd (fun t => commit_opened hk.repository hstaged) ?_
  intro t ht hdata hclient hfailures
  have hcommit := does_commit_refused ht ((refusal?_of_same hclient hfailures).trans hfails)
  rw [hdata, hclient] at hcommit
  exact hcommit

theorem flush_memory (hk : (s.1.client k).repository = main)
    (hpath : (s.1.repository main).path = none) : flush k s = (.ok (), s) := by
  unfold flush
  rw [Effect.bind_apply, Work.depot_apply]
  simp only [hk, Repository.durability, hpath]
  rfl

/-- To flush a repository that is kept in a directory is to close and to open it. -/
theorem flush_directory {path : String} (hk : (s.1.client k).repository = main)
    (hpath : (s.1.repository main).path = some path) :
    ∃ records, flush k s = (do
      (shutDown main).relabel fun f => .flush ("shutdown failed: " ++ f.message)
      (initialize_ main).relabel fun f => .flush ("reinitialization failed: " ++ f.message) :
      Work Unit) (s.1, records) := by
  obtain ⟨records, hnoted⟩ := noteNamed_apply (s := s) k .info
    (fun name => "flushing repository " ++ name ++ " to disk") fun _ => do
      (shutDown main).relabel fun f => .flush ("shutdown failed: " ++ f.message)
      (initialize_ main).relabel fun f => .flush ("reinitialization failed: " ++ f.message)
  refine ⟨records, ?_⟩
  unfold flush
  rw [Effect.bind_apply, Work.depot_apply]
  simp only [hk, Repository.durability, hpath]
  exact hnoted

theorem shutDown_closed {r : Nat} (hclosed : (s.1.repository r).opened = none) :
    shutDown r s = (.ok (), s) := by
  unfold shutDown
  rw [Effect.bind_apply, Work.depot_apply]
  simp only [hclosed, Option.isSome_none, Bool.false_eq_true, if_false]
  rfl

theorem clients_shut (d : Depot) (r : Nat) : (d.shut r).clients = d.clients := by
  unfold shut
  split <;> rfl

/-- What is kept in a directory is found again when the repository is opened, whether it could be
flushed or not. -/
theorem holds_shut {path : String} (hd : d.Serving) (hpath : (d.repository main).path = some path) :
    (d.shut main).Holds d.committed := by
  cases hd with
  | memory hnone _ => simp [hpath] at hnone
  | @directory found place hfound hopened hplace halone =>
    obtain rfl : found = path := Option.some.inj (hfound.symm.trans hpath)
    have hshut : d.shut main = { d.setOpened main none with flushes := d.flushes.tail } := by
      unfold shut
      rw [hpath]
      rfl
    obtain ⟨hclosed, hfree⟩ := closed_free halone
    have hpath' : ((d.setOpened main none).repository main).path = some found := by
      rw [path_setOpened]
      exact hpath
    have hexists : main < (d.setOpened main none).repositories.length := by
      simpa [setOpened] using lt_of_opened hopened
    have hdata : d.committed = ((d.setOpened main none).saved.lookup place).getD .empty := by
      simp only [committed, data?, hopened]
      rfl
    have hholds : (d.setOpened main none).Holds d.committed :=
      .directory hexists hclosed hpath' (Files.makeDirectories_of_find hplace) hplace hfree hdata
    rw [hshut]
    exact hholds.of_clients _ _ _ _

/-- Whether a flush succeeds or not, it changes nothing that is committed or staged. -/
theorem calls_flush (hk : s.1.HasClient k) (hd : s.1.Holds data) :
    ∃ result, Calls k (flush k) s result data (s.1.client k).staged := by
  cases hpath : (s.1.repository main).path with
  | none => exact ⟨_, s, flush_memory hk.repository hpath, hd.turns k⟩
  | some path =>
    obtain ⟨records, hflush⟩ := flush_directory hk.repository hpath
    cases hopened : (s.1.repository main).opened with
    | none =>
      -- there is nothing to shut down, and the repository is opened
      have hd' : ((s.1, records) : Depot × List Record).1.Holds data := hd
      obtain ⟨t, hopen, hserving, hdata, hclients, -⟩ := hd'.opens
      refine ⟨.ok (), t, ?_, Holds.turns_of_clients (.open_ hserving hdata) hclients k⟩
      rw [hflush, Effect.bind_apply, Work.relabel_apply,
        shutDown_closed (s := (s.1, records)) hopened]
      simp only [Except.mapError]
      rw [Work.relabel_apply, hopen]
      rfl
    | some opened =>
      obtain ⟨hserving, rfl⟩ := hd.serving_of_opened hopened
      cases hunflushed : s.1.unflushed? main with
      | none =>
        obtain ⟨t, hdone, hbecomes⟩ := does_flush ⟨hserving, hk.exist, hk.repository⟩ hunflushed
        exact ⟨.ok (), t, hdone, hbecomes.turns⟩
      | some reason =>
        obtain ⟨records', hshut⟩ := shutDown_apply (s := (s.1, records)) (r := main)
          (by rw [hopened]; rfl)
        have hfailed : flush k s =
            (.error (.flush ("shutdown failed: " ++ Fault.message (.connection
              ("cannot flush repository " ++ (s.1.repository main).name ++ ": " ++ reason)))),
              (s.1.shut main, records')) := by
          rw [hflush, Effect.bind_apply, Work.relabel_apply, hshut, hunflushed]
          rfl
        have hclosed := (holds_shut hserving hpath).turns_of_clients (clients_shut s.1 main) k
        exact ⟨_, _, hfailed, hclosed⟩

/-- An accepted write is staged behind the others, a refused one changes nothing. -/
theorem calls_write [Document.Fetcher] (hk : s.1.HasClient k) (hd : s.1.Holds data) (w : Write) :
    (∃ staged blanks, s.1.changes w = .ok (staged, blanks) ∧
      Calls k (write k w) s (.ok ()) data ((s.1.client k).staged ++ staged)) ∨
    ∃ f, s.1.changes w = .error f ∧ write k w s = (.error f, s) := by
  unfold Calls write
  rw [Effect.bind_apply, Work.depot_apply]
  simp only [Effect.bind_apply, Work.lift_apply]
  rcases s.1.changes w with f | ⟨staged, blanks⟩
  · exact Or.inr ⟨f, rfl, rfl⟩
  · left
    refine ⟨staged, blanks, rfl, ?_⟩
    have hstage := hd.turns_modify hk.exist
      (g := fun c => { c with staged := c.staged ++ staged }) (fun _ => rfl) (s.1.blanks + blanks)
    cases w <;> exact ⟨_, rfl, hstage⟩

section

variable [Engine]

theorem calls_query (hk : s.1.HasClient k) (hd : s.1.Holds data)
    (answerOf : String → Engine.Query → List Quad → Except Fault α) (text : String) :
    Calls k (query k answerOf text) s (solveBy answerOf text data) data
      (s.1.client k).staged := by
  cases hquery : query? text with
  | error fault =>
    refine ⟨s, ?_, hd.turns k⟩
    simp only [query, solveBy, hquery, Effect.bind_apply, Work.lift_apply]
    rfl
  | ok q =>
    refine Calls.of_opened hk hd ?_ ?_
    · intro t hopen ht hclient
      simp only [query, hquery, Effect.bind_apply, Work.lift_apply,
        clientData_opened hk.repository hopen ht hclient]
    · intro t ht hdata hclient _
      rw [← hdata, ← hclient]
      exact does_query ht answerOf text

end

/-- A new client of the repository, which has staged nothing, and whom no other client notices. -/
structure Adds (d e : Depot) (data : Dataset) : Prop where
  holds : e.Holds data
  one : e.clients.length = d.clients.length + 1
  staged : (e.client d.clients.length).staged = []
  others : ∀ j, j < d.clients.length → e.client j = d.client j

theorem calls_create (hd : s.1.Holds data) :
    ∃ u, connectClient main s = (.ok s.1.clients.length, u) ∧ Adds s.1 u.1 data := by
  obtain ⟨t, hopen, hserving, hdata, hclients, -⟩ := hd.opens
  -- the new client is added to the open repository, and connected
  have hadd := apart_addClient (fun _ => False) hserving main
  have hnew : (t.1.addClient main).2.Serves s.1.clients.length := by
    rw [← hclients]
    exact ⟨hadd.serving, by simp [addClient], by rw [client_addClient]⟩
  obtain ⟨u, hconnect, hconnected⟩ := does_connect (s := ((t.1.addClient main).2, t.2)) hnew
  refine ⟨u, ?_, .open_ hconnected.serving ?_, ?_, ?_, ?_⟩
  · unfold connectClient
    rw [Effect.bind_apply, hopen]
    change ((connect t.1.clients.length >>= fun _ => pure t.1.clients.length) :
      Work Nat) ((t.1.addClient main).2, t.2) = _
    rw [Effect.bind_apply, hclients, hconnect]
    rfl
  · exact (hconnected.committed.trans hadd.committed).trans hdata
  · rw [hconnected.alone, ← hclients]
    simp [addClient]
  · rw [hconnected.staged, ← hclients, client_addClient]
  · intro j hj
    have hj' : j < t.1.clients.length := by rw [hclients]; exact hj
    have hlate : j < (t.1.addClient main).2.clients.length := by
      simp only [addClient, List.length_append]
      omega
    rw [hconnected.others j hlate (Nat.ne_of_lt hj), hadd.others j hj' id]
    simp only [client, hclients]

end Depot

/-! ## Batches and the log -/

/-- An entry after which its client has staged nothing: a commit, a rollback, a disconnect or an
invalidation that succeeded. -/
def Entry.drops {S : Type} (k : ClientId) (e : Entry S) : Bool :=
  e.answered && [Action.commit, .rollback, .disconnect, .invalidate].any fun a =>
    e.question == .act k a

/-- The client whose commit has succeeded, if an entry says so. -/
def Entry.committer? {S : Type} (e : Entry S) : Option ClientId :=
  match e.question with
  | .act k .commit => if e.answered then some k else none
  | _ => none

/-- The calls that the clients of the main repository make.  Everything but update requests, which
go past the staged writes, is among them, and so is making another client. -/
def Question.IsCall (d : Depot) : Question → Prop
  | .act k a => d.HasClient k.number ∧ ∀ text, a ≠ .update text
  | .select k _ => d.HasClient k.number
  | .ask k _ => d.HasClient k.number
  | .create => True
  | .openWorking => False
  | .shutDownWorking => False

namespace Recorded

variable {k : ClientId} {r t start : Recorded Depot} {asked earlier later : List (Entry Depot)}
  {e : Entry Depot} {data : Dataset}

theorem respond_of_calls {α : Type} {work : Depot.Work α} {d : Depot} {n : Nat}
    {result : Except Fault α} {staged : List Staged}
    (hcalls : Depot.Calls n work (d, []) result data staged) :
    (Depot.Work.respond work d).result = result ∧
      Depot.Turns n d (Depot.Work.respond work d).state data staged := by
  obtain ⟨u, hwork, hturns⟩ := hcalls
  have hrun : work.run (d, []) = (result, u) := hwork
  unfold Depot.Work.respond
  rw [hrun]
  exact ⟨rfl, hturns⟩

theorem drops_of_committer {e : Entry Depot} (hcommitter : e.committer? = some k) :
    e.drops k = true := by
  unfold Entry.committer? at hcommitter
  split at hcommitter
  · next j hquestion =>
    obtain ⟨hanswered, hj⟩ := Option.ite_none_right_eq_some.mp hcommitter
    obtain rfl := Option.some.inj hj
    simp [Entry.drops, hanswered, hquestion]
  · contradiction

section

variable [Engine]

/-- The changes of the writes that were accepted from a client since it last had none. -/
def batch (k : ClientId) (asked : List (Entry Depot)) : List Staged :=
  stagedOf k (asked.rtakeWhile fun e => !e.drops k)

/-- The batches of the successful commits, in the order of the commits.  The first list has the
questions before those that are gone through. -/
def batchesFrom (earlier : List (Entry Depot)) : List (Entry Depot) → List (List Staged)
  | [] => []
  | e :: later => (e.committer?.map (batch · earlier)).toList ++ batchesFrom (earlier ++ [e]) later

def commitLog (asked : List (Entry Depot)) : List (List Staged) := batchesFrom [] asked

/-- What the batches of a log make of some data. -/
def logged (data : Dataset) (asked : List (Entry Depot)) : Dataset :=
  (commitLog asked).foldl Dataset.applyAll data

theorem batch_concat (k : ClientId) (asked : List (Entry Depot)) (e : Entry Depot) :
    batch k (asked ++ [e]) = if e.drops k then [] else batch k asked ++ stagedOf k [e] := by
  unfold batch
  rw [List.rtakeWhile_concat]
  cases e.drops k with
  | true => rfl
  | false => simp

theorem batchesFrom_concat (earlier asked : List (Entry Depot)) (e : Entry Depot) :
    batchesFrom earlier (asked ++ [e]) =
      batchesFrom earlier asked ++ (e.committer?.map (batch · (earlier ++ asked))).toList := by
  induction asked generalizing earlier with
  | nil => simp [batchesFrom]
  | cons first rest ih =>
    simp only [List.cons_append, batchesFrom, ih, List.append_assoc, List.nil_append]

theorem logged_concat (data : Dataset) (asked : List (Entry Depot)) (e : Entry Depot) :
    logged data (asked ++ [e]) =
      match e.committer? with
      | some k => (logged data asked).applyAll (batch k asked)
      | none => logged data asked := by
  unfold logged commitLog
  rw [batchesFrom_concat]
  cases e.committer? with
  | none => simp
  | some k => simp [List.foldl_append]

/-- Without writes since its last commit a client has an empty batch. -/
theorem batch_eq_nil (hdrops : e.drops k = true) (hnone : writesOf k later = []) :
    batch k (earlier ++ e :: later) = [] := by
  induction later using List.reverseRecOn with
  | nil => rw [batch_concat, if_pos hdrops]
  | append_singleton rest last ih =>
    rw [writesOf_append, List.append_eq_nil_iff] at hnone
    have hrest := ih hnone.1
    have hlast : stagedOf k [last] = [] := stagedOf_of_writesOf hnone.2
    rw [← List.cons_append, ← List.append_assoc, batch_concat, hrest, hlast]
    simp

/-- A client that nobody has asked anything yet has an empty batch. -/
theorem batch_of_others (hothers : ∀ e ∈ asked, e.question.client? ≠ some k) :
    batch k asked = [] := by
  refine stagedOf_of_writesOf (writesOf_of_others fun e he => hothers e ?_)
  exact (List.rtakeWhile_suffix _ _).subset he

/-! ## One call -/

/-- The entry that a question leaves. -/
def entry (r : Recorded Depot) (q : Question) : Entry Depot :=
  ⟨r.stores, q, q.isAnswered r.stores⟩

/-- What a call of a client does to the committed data and to what the client has staged, read off
the entry that the call leaves. -/
def Accounts (k : ClientId) (data : Dataset) (staged : List Staged) (e : Entry Depot) (d : Depot) :
    Prop :=
  Depot.Turns k.number e.before d
    (if e.committer? = some k then data.applyAll staged else data)
    (if e.drops k then [] else staged ++ stagedOf k [e])

/-- A call that is no write. -/
theorem accounts_of_calls {a : Action} {result : Except Fault Unit} (hwrite : ∀ w, a ≠ .write w)
    (hcalls : Depot.Calls k.number (Depot.act k.number a) (r.stores, []) result
      (if result.isOk ∧ a = .commit then data.applyAll (r.stores.client k.number).staged else data)
      (if result.isOk ∧ a ∈ [Action.commit, .rollback, .disconnect, .invalidate] then []
        else (r.stores.client k.number).staged)) :
    Accounts k data (r.stores.client k.number).staged (r.entry (.act k a))
      ((Question.act k a).after r.stores) := by
  obtain ⟨hresult, hturns⟩ := respond_of_calls hcalls
  have hanswered : (Question.act k a).isAnswered r.stores = result.isOk :=
    congrArg Except.isOk hresult
  have hstaged : stagedOf k [r.entry (.act k a)] = [] := by
    refine stagedOf_of_writesOf (writesOf_of_no_access fun e he => ?_)
    rw [List.mem_singleton.mp he]
    exact Question.isAccess_act hwrite
  have hcommitter : (r.entry (.act k a)).committer? = some k ↔ result.isOk ∧ a = .commit := by
    simp only [Entry.committer?, entry, hanswered]
    split
    · next heq => simp_all
    · next hne => simpa using fun _ heq => hne k (by rw [heq])
  have hdrops : (r.entry (.act k a)).drops k = true ↔
      result.isOk ∧ a ∈ [Action.commit, .rollback, .disconnect, .invalidate] := by
    simp [Entry.drops, entry, hanswered]
  unfold Accounts
  simp only [hcommitter, hdrops, hstaged, List.append_nil]
  exact hturns

theorem accounts_write (hd : r.stores.Holds data) (hk : r.stores.HasClient k.number) (w : Write) :
    Accounts k data (r.stores.client k.number).staged (r.entry (.act k (.write w)))
      ((Question.act k (.write w)).after r.stores) := by
  have hcommitter : (r.entry (.act k (.write w))).committer? = none := rfl
  have hdrops : (r.entry (.act k (.write w))).drops k = false := by
    simp [Entry.drops, entry]
  unfold Accounts
  rw [hcommitter, hdrops]
  simp only [reduceCtorEq, Bool.false_eq_true, if_false]
  rcases Depot.calls_write (s := (r.stores, [])) hk hd w with
    ⟨staged, blanks, hchanges, hcalls⟩ | ⟨fault, hchanges, hwrite⟩
  · obtain ⟨hresult, hturns⟩ := respond_of_calls hcalls
    have hanswered : (Question.act k (.write w)).isAnswered r.stores = true :=
      congrArg Except.isOk hresult
    have hstaging : r.stores.staging w = staged := by
      dsimp only at hchanges
      simp only [Depot.staging, hchanges]
    rw [entry, hanswered, stagedOf_accepted, hstaging]
    exact hturns
  · have hcalls : Depot.Calls k.number (Depot.write k.number w) (r.stores, []) (.error fault) data
        (r.stores.client k.number).staged := ⟨_, hwrite, hd.turns k.number⟩
    obtain ⟨hresult, hturns⟩ := respond_of_calls hcalls
    have hanswered : (Question.act k (.write w)).isAnswered r.stores = false :=
      congrArg Except.isOk hresult
    rw [entry, hanswered, stagedOf_refused, List.append_nil]
    exact hturns

/-- A commit, whether its transaction succeeds or not. -/
theorem accounts_commit (hd : r.stores.Holds data) (hk : r.stores.HasClient k.number) :
    Accounts k data (r.stores.client k.number).staged (r.entry (.act k .commit))
      ((Question.act k .commit).after r.stores) := by
  cases hrefusal : r.stores.refusal? k.number with
  | none =>
    have hcommit := Depot.calls_commit (s := (r.stores, [])) hk hd hrefusal
    exact accounts_of_calls (a := .commit) (by simp) hcommit
  | some reason =>
    have hcommit := Depot.calls_commit_refused (s := (r.stores, [])) hk hd hrefusal
    exact accounts_of_calls (a := .commit) (by simp) hcommit

theorem accounts_flush (hd : r.stores.Holds data) (hk : r.stores.HasClient k.number) :
    Accounts k data (r.stores.client k.number).staged (r.entry (.act k .flush))
      ((Question.act k .flush).after r.stores) := by
  obtain ⟨result, hflush⟩ := Depot.calls_flush (s := (r.stores, [])) hk hd
  have hact : Depot.Calls k.number (Depot.act k.number .flush) (r.stores, []) result data
      (r.stores.client k.number).staged := hflush
  exact accounts_of_calls (by simp) (by simpa using hact)

theorem accounts_of_query {q : Question} {d : Depot} {staged : List Staged}
    (hquery : ∀ j a, q ≠ .act j a) (hturns : Depot.Turns k.number r.stores d data staged) :
    Accounts k data staged (r.entry q) d := by
  have hwrites : writesOf k [r.entry q] = [] := by
    cases q with
    | act j a => exact absurd rfl (hquery j a)
    | _ => rfl
  have hcommitter : (r.entry q).committer? = none := by
    cases q with
    | act j a => exact absurd rfl (hquery j a)
    | _ => rfl
  have hdrops : (r.entry q).drops k = false := by
    simp [Entry.drops, entry, hquery]
  unfold Accounts
  rw [hcommitter, hdrops, stagedOf_of_writesOf hwrites, List.append_nil]
  exact hturns

theorem accounts_after {q : Question} (hd : r.stores.Holds data) (hcall : q.IsCall r.stores)
    (hclient : q.client? = some k) :
    Accounts k data (r.stores.client k.number).staged (r.entry q) (q.after r.stores) := by
  cases q with
  | act j a =>
    obtain rfl : j = k := Option.some.inj hclient
    obtain ⟨hk, hupdate⟩ := hcall
    cases a with
    | connect => exact accounts_of_calls (by simp) (Depot.calls_connect hk hd)
    | disconnect => exact accounts_of_calls (by simp) (Depot.calls_disconnect hk hd)
    | commit => exact accounts_commit hd hk
    | rollback => exact accounts_of_calls (by simp) (Depot.calls_rollback hk hd)
    | flush => exact accounts_flush hd hk
    | invalidate => exact accounts_of_calls (by simp) (Depot.calls_invalidate hk hd)
    | write w => exact accounts_write hd hk w
    | update text => exact absurd rfl (hupdate text)
  | select j text =>
    obtain rfl : j = k := Option.some.inj hclient
    have hselect := Depot.calls_query (s := (r.stores, [])) hcall hd Depot.rowsOf text
    exact accounts_of_query (by simp) (respond_of_calls hselect).2
  | ask j text =>
    obtain rfl : j = k := Option.some.inj hclient
    have hask := Depot.calls_query (s := (r.stores, [])) hcall hd Depot.verdictOf text
    exact accounts_of_query (by simp) (respond_of_calls hask).2
  | create => contradiction
  | openWorking => contradiction
  | shutDownWorking => contradiction

/-! ## Many calls -/

/-- Calls of any clients, one after another. -/
def Serviced : Recorded Depot → Recorded Depot → Prop :=
  Relation.ReflTransGen fun r t => ∃ q : Question, q.IsCall r.stores ∧ t = q.after r

/-- The questions since a start tell what is committed and what each client has staged. -/
structure Follows (start : Recorded Depot) (data : Dataset) (asked : List (Entry Depot))
    (r : Recorded Depot) : Prop where
  history : r.history = start.history ++ asked
  truth : ∀ e ∈ asked, e.IsTrue
  committed : r.stores.Holds (logged data asked)
  staged : ∀ k : ClientId, r.stores.HasClient k.number →
    (r.stores.client k.number).staged = batch k asked
  askers : ∀ e ∈ asked, ∀ k, e.question.client? = some k → k.number < r.stores.clients.length

/-- An entry says nothing of a client whom its question has nothing to do with. -/
theorem entry_of_other {q : Question} (hclient : q.client? ≠ some k) :
    (r.entry q).committer? ≠ some k ∧ (r.entry q).drops k = false ∧
      stagedOf k [r.entry q] = [] := by
  refine ⟨?_, ?_, stagedOf_of_writesOf (writesOf_of_others (by simpa [entry] using hclient))⟩
  · intro hcommitter
    unfold Entry.committer? at hcommitter
    split at hcommitter
    · next j hquestion =>
      have hq : q = .act j .commit := hquestion
      obtain ⟨-, hj⟩ := Option.ite_none_right_eq_some.mp hcommitter
      obtain rfl := Option.some.inj hj
      exact hclient (congrArg Question.client? hq)
    · contradiction
  · have hne : ∀ a, q ≠ .act k a := fun a hq => hclient (congrArg Question.client? hq)
    simp [Entry.drops, entry, hne]

theorem Follows.history_concat (hr : Follows start data asked r) (q : Question) :
    (q.after r).history = start.history ++ (asked ++ [r.entry q]) := by
  rw [history_after, hr.history, List.append_assoc]
  rfl

theorem Follows.truth_concat (hr : Follows start data asked r) (q : Question) :
    ∀ e ∈ asked ++ [r.entry q], e.IsTrue := by
  intro e he
  rcases List.mem_append.mp he with he | he
  · exact hr.truth e he
  · rw [List.mem_singleton.mp he]
    rfl

theorem Follows.of_client {q : Question} (hr : Follows start data asked r)
    (hcall : q.IsCall r.stores) (hclient : q.client? = some k) (hk : r.stores.HasClient k.number) :
    Follows start data (asked ++ [r.entry q]) (q.after r) := by
  have hturns := accounts_after hr.committed hcall hclient
  have hstores : (q.after r).stores = q.after r.stores := stores_after r q
  have hlength : (q.after r).stores.clients.length = r.stores.clients.length := by
    rw [hstores]
    exact hturns.alone
  refine ⟨?_, ?_, ?_, ?_, ?_⟩
  · exact hr.history_concat q
  · exact hr.truth_concat q
  · -- the log grows by what the calling client has staged, and only if that client commits
    have hdata : logged data (asked ++ [r.entry q]) =
        if (r.entry q).committer? = some k then
          (logged data asked).applyAll (r.stores.client k.number).staged
        else logged data asked := by
      rw [logged_concat, hr.staged k hk]
      cases hcommitter : (r.entry q).committer? with
      | none => rfl
      | some j =>
        by_cases hjk : j = k
        · simp [hjk]
        · have hother : q.client? ≠ some j := by
            rw [hclient]
            exact fun heq => hjk (Option.some.inj heq).symm
          exact absurd hcommitter (entry_of_other hother).1
    rw [hstores, hdata]
    exact hturns.holds
  · intro j hj
    rw [batch_concat]
    have hj' : j.number < r.stores.clients.length := by
      rw [← hlength]
      exact hj.exist
    by_cases hjk : j = k
    · subst hjk
      rw [hstores, hturns.staged, hr.staged j hk]
    · -- the client has nothing to do with the call
      have hne : j.number ≠ k.number := fun heq => hjk (congrArg ClientId.mk heq)
      have hother : q.client? ≠ some j := by
        rw [hclient]
        exact fun heq => hjk (Option.some.inj heq).symm
      obtain ⟨-, hdrops, hnone⟩ := entry_of_other (r := r) hother
      have hsame : (q.after r).stores.client j.number = r.stores.client j.number := by
        rw [hstores]
        exact hturns.others _ hj' hne
      have hbefore : r.stores.HasClient j.number := ⟨hj', hsame ▸ hj.repository⟩
      rw [hsame, hr.staged j hbefore, hdrops, hnone]
      simp
  · intro e he j hj
    rw [hlength]
    rcases List.mem_append.mp he with he | he
    · exact hr.askers e he j hj
    · rw [List.mem_singleton.mp he] at hj
      obtain rfl : k = j := Option.some.inj (hclient.symm.trans hj)
      exact hk.exist

theorem Follows.create (hr : Follows start data asked r) :
    Follows start data (asked ++ [r.entry .create]) (Question.create.after r) := by
  obtain ⟨u, hcreate, hadds⟩ := Depot.calls_create (s := (r.stores, [])) hr.committed
  have hstores : (Question.create.after r).stores = u.1 := by
    rw [stores_after]
    change (Backend.create r.stores).state = u.1
    have hresponse : Backend.create r.stores = _ := respond_map
    rw [hresponse, hcreate]
  have hlength : (Question.create.after r).stores.clients.length =
      r.stores.clients.length + 1 := by
    rw [hstores]
    exact hadds.one
  have hnobody : ∀ k : ClientId, Question.create.client? ≠ some k := by
    intro k
    simp [Question.client?]
  refine ⟨?_, ?_, ?_, ?_, ?_⟩
  · exact hr.history_concat .create
  · exact hr.truth_concat .create
  · rw [logged_concat, hstores]
    exact hadds.holds
  · intro k hk
    obtain ⟨-, hdrops, hnone⟩ := entry_of_other (r := r) (hnobody k)
    have hbatch : batch k (asked ++ [r.entry .create]) = batch k asked := by
      rw [batch_concat, hdrops, hnone]
      simp
    have hexist := hk.exist
    rw [hlength] at hexist
    rw [hbatch, hstores]
    -- a client was there before, or it is the new one and has not called yet
    by_cases hnew : k.number = r.stores.clients.length
    · have hunknown : ∀ e ∈ asked, e.question.client? ≠ some k := by
        intro e he hasker
        have hlt := hr.askers e he k hasker
        omega
      rw [batch_of_others hunknown, hnew]
      exact hadds.staged
    · have hold : k.number < r.stores.clients.length := by omega
      have hsame : u.1.client k.number = r.stores.client k.number := hadds.others _ hold
      have hbefore : r.stores.HasClient k.number := by
        refine ⟨hold, ?_⟩
        rw [← hsame, ← hstores]
        exact hk.repository
      rw [hsame, hr.staged k hbefore]
  · intro e he j hj
    rw [hlength]
    rcases List.mem_append.mp he with he | he
    · exact Nat.lt_succ_of_lt (hr.askers e he j hj)
    · rw [List.mem_singleton.mp he] at hj
      exact absurd hj (hnobody j)

theorem Follows.call {q : Question} (hr : Follows start data asked r) (hcall : q.IsCall r.stores) :
    Follows start data (asked ++ [r.entry q]) (q.after r) := by
  cases q with
  | act k a => exact hr.of_client hcall rfl hcall.1
  | select k text => exact hr.of_client hcall rfl hcall
  | ask k text => exact hr.of_client hcall rfl hcall
  | create => exact hr.create
  | openWorking => contradiction
  | shutDownWorking => contradiction

/-- In a run of calls from clients that have staged nothing. -/
theorem Serviced.follows (hrun : Serviced start r) (hdata : start.stores.Holds data)
    (hfresh : ∀ k, start.stores.HasClient k → (start.stores.client k).staged = []) :
    ∃ asked, Follows start data asked r := by
  induction hrun with
  | refl =>
    refine ⟨[], by simp, ?_, hdata, ?_, ?_⟩
    · intro e he
      exact absurd he List.not_mem_nil
    · exact fun k hk => hfresh k.number hk
    · intro e he
      exact absurd he List.not_mem_nil
  | tail _ hstep ih =>
    obtain ⟨asked, hasked⟩ := ih
    obtain ⟨q, hcall, rfl⟩ := hstep
    exact ⟨asked ++ [Recorded.entry _ q], hasked.call hcall⟩

/-! ## The whole statement -/

/-- A query is answered from what is committed. -/
theorem answers {k : ClientId} (hd : r.stores.Holds data) (hk : r.stores.HasClient k.number)
    (text : String) : (Backend.select r k text).result = Depot.solve text data ∧
      (Backend.ask r k text).result = Depot.solveAsk text data :=
  ⟨(respond_of_calls (Depot.calls_query (s := (r.stores, [])) hk hd Depot.rowsOf text)).1,
    (respond_of_calls (Depot.calls_query (s := (r.stores, [])) hk hd Depot.verdictOf text)).1⟩

/-- The committed data, and all that is ever answered, follow the log of the commits. -/
structure FollowsLog (data : Dataset) (asked : List (Entry Depot)) (r : Recorded Depot) :
    Prop where
  /-- The initial data with the batches of the successful commits, one after another. -/
  committed : r.stores.Holds (logged data asked)
  /-- A client has staged the writes that were accepted from it since it last had none. -/
  staged : ∀ k : ClientId, r.stores.HasClient k.number →
    (r.stores.client k.number).staged = batch k asked
  /-- A commit succeeds unless its transaction fails, and its batch is the next one in the log. -/
  commits : ∀ k : ClientId, r.stores.HasClient k.number → r.stores.refusal? k.number = none →
    (Backend.act r k .commit).result = .ok () ∧
      (Backend.act r k .commit).state.stores.Holds ((logged data asked).applyAll (batch k asked))
  /-- If its transaction fails, so does the commit, and it changes neither the data nor the
  batch. -/
  refuses : ∀ (k : ClientId) (reason : String), r.stores.HasClient k.number →
    r.stores.refusal? k.number = some reason →
    (Backend.act r k .commit).result = .error (.commit reason) ∧
      (Backend.act r k .commit).state.stores.Holds (logged data asked) ∧
      ((Backend.act r k .commit).state.stores.client k.number).staged = batch k asked
  /-- No other call changes what is committed. -/
  others : ∀ q : Question, q.IsCall r.stores → (∀ k, q ≠ .act k .commit) →
    (q.after r).stores.Holds (logged data asked)
  /-- A commit that is repeated without new writes changes nothing at all. -/
  repeated : ∀ (k : ClientId) (earlier later : List (Entry Depot)) (e : Entry Depot),
    r.stores.HasClient k.number → asked = earlier ++ e :: later → e.committer? = some k →
    writesOf k later = [] → ((Question.act k .commit).after r).stores = r.stores
  /-- Every query is answered from the committed data. -/
  answered : ∀ (k : ClientId) (text : String), r.stores.HasClient k.number →
    (Backend.select r k text).result = Depot.solve text (logged data asked) ∧
      (Backend.ask r k text).result = Depot.solveAsk text (logged data asked)
  /-- So wherever the same quads are committed, whatever else is staged there and by whomever, the
  same is answered. -/
  alike : ∀ (t : Recorded Depot) (there : Dataset), t.stores.Holds there →
    there.quads.Perm (logged data asked).quads → ∀ (j k : ClientId) (text : String),
    t.stores.HasClient j.number → r.stores.HasClient k.number →
    (Backend.select t j text).result = (Backend.select r k text).result ∧
      (Backend.ask t j text).result = (Backend.ask r k text).result

/-- Whatever the clients of a repository do, the repository follows the log of their commits. -/
theorem refines_commit_log (hdata : start.stores.Holds data)
    (hfresh : ∀ k, start.stores.HasClient k → (start.stores.client k).staged = [])
    (hrun : Serviced start r) :
    ∃ asked, r.history = start.history ++ asked ∧ (∀ e ∈ asked, e.IsTrue) ∧
      FollowsLog data asked r := by
  obtain ⟨asked, hr⟩ := hrun.follows hdata hfresh
  refine ⟨asked, hr.history, hr.truth, hr.committed, hr.staged, ?_, ?_, ?_, ?_, ?_, ?_⟩
  · intro k hk hsucceeds
    have hcommit := Depot.calls_commit (s := (r.stores, [])) hk hr.committed hsucceeds
    obtain ⟨hresult, hturns⟩ := respond_of_calls hcommit
    refine ⟨hresult, ?_⟩
    rw [← hr.staged k hk]
    exact hturns.holds
  · intro k reason hk hfails
    have hcommit := Depot.calls_commit_refused (s := (r.stores, [])) hk hr.committed hfails
    obtain ⟨hresult, hturns⟩ := respond_of_calls hcommit
    exact ⟨hresult, hturns.holds, hturns.staged.trans (hr.staged k hk)⟩
  · -- a call that is no commit has no committer, and the log stays as it is
    intro q hcall hcommit
    have hnext := (hr.call hcall).committed
    rw [logged_concat] at hnext
    cases hcommitter : (r.entry q).committer? with
    | none => rwa [hcommitter] at hnext
    | some k =>
      unfold Entry.committer? at hcommitter
      split at hcommitter
      · next j hquestion => exact absurd hquestion (hcommit j)
      · contradiction
  · -- the batch is empty, so nothing is staged and nothing attempted
    intro k earlier later e hk hasked hcommitter hnone
    have hstaged : (r.stores.client k.number).staged = [] := by
      rw [hr.staged k hk, hasked]
      exact batch_eq_nil (drops_of_committer hcommitter) hnone
    have hcommit := Depot.commit_nothing (s := (r.stores, [])) hstaged
    rw [stores_after]
    change (Depot.Work.respond (Depot.commit k.number) r.stores).state = r.stores
    unfold Depot.Work.respond
    rw [show (Depot.commit k.number).run (r.stores, []) = _ from hcommit]
  · exact fun k text hk => answers hr.committed hk text
  · intro t there hthere hquads j k text hj hk
    obtain ⟨hselect, hask⟩ := answers hthere hj text
    obtain ⟨hselect', hask'⟩ := answers hr.committed hk text
    obtain ⟨hsolve, hsolveAsk⟩ := Depot.solve_perm hquads text
    exact ⟨hselect.trans (hsolve.trans hselect'.symm), hask.trans (hsolveAsk.trans hask'.symm)⟩

end

section

attribute [local instance] Engine.small

/-- Two clients of a repository that is not open yet write, and only one of them commits. -/
theorem refines_commit_log_writing :
    ∃ (r : Recorded Depot) (asked : List (Entry Depot)), r.history = asked ∧
      FollowsLog .empty asked r ∧
      (commitLog asked).map List.length = [1] ∧ (batch ⟨1⟩ asked).length = 1 := by
  let start : Recorded Depot :=
    { stores :=
        { files := default
          repositories := [{ name := "main", path := none }]
          clients := [{ repository := 0 }, { repository := 0 }] } }
  let first : Question := .act ⟨0⟩ (.write (.addTriple ⟨"urn:s", "urn:p", "urn:o"⟩ "urn:g"))
  let second : Question := .act ⟨1⟩ (.write (.clear "urn:g"))
  let commit : Question := .act ⟨0⟩ .commit
  have hrun : Serviced start (commit.after (second.after (first.after start))) := by
    refine ((Relation.ReflTransGen.single ⟨first, ?_, rfl⟩).tail ⟨second, ?_, rfl⟩).tail
      ⟨commit, ?_, rfl⟩
    · exact ⟨⟨by decide, rfl⟩, by simp⟩
    · exact ⟨⟨by decide, rfl⟩, by simp⟩
    · exact ⟨⟨by decide, rfl⟩, by simp⟩
  have hfresh : ∀ k, start.stores.HasClient k → (start.stores.client k).staged = [] := by
    rintro k ⟨hk, -⟩
    match k with
    | 0 => rfl
    | 1 => rfl
    | _ + 2 => rfl
  obtain ⟨asked, hhistory, -, hfollows⟩ :=
    refines_commit_log (.memory (by decide) rfl rfl rfl) hfresh hrun
  obtain rfl : _ = asked := hhistory
  exact ⟨_, _, rfl, hfollows, rfl, rfl⟩

end

end Recorded

end GraphCommit
