import GraphCommit.Proofs.Agreement
import GraphCommit.Proofs.Recorded
import GraphCommit.Proofs.Store.Depot

/-!
# Depots whose clients go by other names

Two depots are `Twins` if they differ only in the numbers of their clients, in who of them is
connected, and in clients that nobody uses any more.  Nothing that can be asked of a depot tells
them apart: a client that is not connected is connected when it first needs the data, and this opens
its repository, which the question would have opened anyway.
-/

namespace GraphCommit

open Depot.Work Effect

namespace Depot

variable {ρ : Nat → Nat} {d e : Depot} {k r : Nat} {α β γ δ : Type}

/-- Depots that hold the same, with the clients of the first one under other names in the second. -/
structure Twins (ρ : Nat → Nat) (d e : Depot) : Prop where
  same : e = { d with clients := e.clients }
  repository : ∀ k, (e.client (ρ k)).repository = (d.client k).repository
  staged : ∀ k, (e.client (ρ k)).staged = (d.client k).staged
  /-- Of the clients that are still to be made, the next one there has the name of the next one
  here. -/
  later : ∀ m, ρ (d.clients.length + m) = e.clients.length + m

/-! ## Parts of twins -/

theorem Twins.repository_eq (htwins : Twins ρ d e) (r : Nat) :
    e.repository r = d.repository r := by
  rw [htwins.same]
  rfl

theorem Twins.data?_eq (htwins : Twins ρ d e) (r : Nat) : e.data? r = d.data? r := by
  rw [htwins.same]
  rfl

theorem Twins.changes_eq [Document.Fetcher] (htwins : Twins ρ d e) (w : Write) :
    e.changes w = d.changes w := by
  rw [htwins.same]
  cases w <;> rfl

theorem Twins.lt_length (hρ : Function.Injective ρ) (htwins : Twins ρ d e)
    (hk : k < d.clients.length) : ρ k < e.clients.length := by
  by_contra hge
  obtain ⟨m, hm⟩ := Nat.exists_eq_add_of_le (Nat.le_of_not_lt hge)
  have hlater : k = d.clients.length + m := hρ (hm.trans (htwins.later m).symm)
  omega

theorem Twins.length_le (htwins : Twins ρ d e) (hk : d.clients.length ≤ k) :
    e.clients.length ≤ ρ k := by
  obtain ⟨m, rfl⟩ := Nat.exists_eq_add_of_le hk
  rw [htwins.later]
  exact Nat.le_add_right _ _

/-- A change that has nothing to do with the clients. -/
theorem Twins.change (htwins : Twins ρ d e) {f : Depot → Depot}
    (hf : ∀ (d : Depot) clients, f { d with clients } = { f d with clients }) :
    Twins ρ (f d) (f e) := by
  have hd : (f d).clients = d.clients := by
    have hself : f d = { f d with clients := d.clients } := hf d d.clients
    rw [hself]
  have he : f e = { f d with clients := e.clients } := (congrArg f htwins.same).trans (hf d _)
  rw [he]
  refine ⟨rfl, ?_, ?_, ?_⟩
  · intro k
    rw [client, client, hd]
    exact htwins.repository k
  · intro k
    rw [client, client, hd]
    exact htwins.staged k
  · rw [hd]
    exact htwins.later

theorem Twins.setData (htwins : Twins ρ d e) (r : Nat) (data : Dataset) :
    Twins ρ (d.setData r data) (e.setData r data) := by
  refine htwins.change (f := fun d => d.setData r data) fun d clients => ?_
  have hopened : (({ d with clients } : Depot).repository r).opened = (d.repository r).opened := rfl
  simp only [Depot.setData, hopened]
  cases (d.repository r).opened with
  | none => rfl
  | some opened => cases opened <;> rfl

/-- A client is changed on both sides, and nobody looks at whether it is connected. -/
theorem Twins.updateClient (hρ : Function.Injective ρ) (htwins : Twins ρ d e) (k : Nat)
    {f g : Client → Client}
    (hfg : ∀ b c : Client, b.repository = c.repository → b.staged = c.staged →
      (g b).repository = (f c).repository ∧ (g b).staged = (f c).staged) :
    Twins ρ (d.updateClient k f) (e.updateClient (ρ k) g) := by
  have hclients : ∀ j,
      ((e.updateClient (ρ k) g).client (ρ j)).repository =
        ((d.updateClient k f).client j).repository ∧
      ((e.updateClient (ρ k) g).client (ρ j)).staged = ((d.updateClient k f).client j).staged := by
    intro j
    by_cases hjk : j = k
    · subst hjk
      by_cases hj : j < d.clients.length
      · rw [client_updateClient_self (htwins.lt_length hρ hj), client_updateClient_self hj]
        exact hfg _ _ (htwins.repository j) (htwins.staged j)
      -- what does not exist is not changed
      · have hge := Nat.le_of_not_lt hj
        have hd : d.updateClient j f = d := by
          rw [Depot.updateClient, List.modify_eq_self hge]
        have he : e.updateClient (ρ j) g = e := by
          rw [Depot.updateClient, List.modify_eq_self (htwins.length_le hge)]
        rw [hd, he]
        exact ⟨htwins.repository j, htwins.staged j⟩
    · rw [client_updateClient_ne (fun h => hjk (hρ h)), client_updateClient_ne hjk]
      exact ⟨htwins.repository j, htwins.staged j⟩
  refine ⟨?_, fun j => (hclients j).1, fun j => (hclients j).2, ?_⟩
  · rw [htwins.same]
    rfl
  · simp only [Depot.updateClient, List.length_modify]
    exact htwins.later

theorem client_of_ge (hk : d.clients.length ≤ k) : d.client k = default := by
  rw [client, List.getD_eq_getElem?_getD, List.getElem?_eq_none hk]
  rfl

theorem client_addClient_of_lt (hk : k < d.clients.length) (r : Nat) :
    (d.addClient r).2.client k = d.client k := by
  simp [client, Depot.addClient, List.getD_eq_getElem?_getD, List.getElem?_append_left hk]

/-- A new client has the name of the new client. -/
theorem Twins.addClient (hρ : Function.Injective ρ) (htwins : Twins ρ d e) (r : Nat) :
    Twins ρ (d.addClient r).2 (e.addClient r).2 := by
  have hnone : ∀ (f : Depot) (k : Nat), f.clients.length + 1 ≤ k →
      (f.addClient r).2.client k = default :=
    fun f k hk => client_of_ge (by simpa [Depot.addClient] using hk)
  -- an old client of both depots, the new one of both, or one that there is not yet in either
  have hclients : ∀ k, ((e.addClient r).2.client (ρ k) = e.client (ρ k) ∧
      (d.addClient r).2.client k = d.client k) ∨
      (e.addClient r).2.client (ρ k) = (d.addClient r).2.client k := by
    intro k
    rcases Nat.lt_trichotomy k d.clients.length with hk | rfl | hk
    · exact Or.inl ⟨client_addClient_of_lt (htwins.lt_length hρ hk) r, client_addClient_of_lt hk r⟩
    · right
      have hnew : ρ d.clients.length = e.clients.length := htwins.later 0
      rw [hnew, client_addClient, client_addClient]
    · right
      obtain ⟨m, rfl⟩ := Nat.exists_eq_add_of_le hk
      have hlater : ρ (d.clients.length + 1 + m) = e.clients.length + 1 + m := by
        simpa [Nat.add_assoc] using htwins.later (1 + m)
      rw [hlater, hnone e _ (Nat.le_add_right _ _), hnone d _ (Nat.le_add_right _ _)]
  refine ⟨?_, ?_, ?_, ?_⟩
  · rw [htwins.same]
    rfl
  · intro k
    rcases hclients k with ⟨he, hd⟩ | hsame
    · rw [he, hd]
      exact htwins.repository k
    · rw [hsame]
  · intro k
    rcases hclients k with ⟨he, hd⟩ | hsame
    · rw [he, hd]
      exact htwins.staged k
    · rw [hsame]
  · intro m
    simpa [Depot.addClient, Nat.add_assoc] using htwins.later (1 + m)

/-! ## Work on twins -/

/-- Twins, whatever has been noted about them. -/
def Alike (ρ : Nat → Nat) (s t : Depot × List Record) : Prop := Twins ρ s.1 t.1

theorem agree_depot : Agree (Alike ρ) (Twins ρ) depot depot :=
  fun _ _ h => .returns ⟨h, h⟩

theorem agree_modifyDepot {f g : Depot → Depot} (hfg : ∀ d e, Twins ρ d e → Twins ρ (f d) (g e)) :
    Agree (Alike ρ) Eq (modifyDepot f) (modifyDepot g) :=
  fun _ _ h => .returns ⟨rfl, hfg _ _ h⟩

theorem agree_note (level : Level) (message message' : String) :
    Agree (Alike ρ) Eq (note level message) (note level message') :=
  fun _ _ h => .returns ⟨rfl, h⟩

theorem agree_lift (result : Except Fault α) :
    Agree (Alike ρ) Eq (lift result) (lift result) := by
  intro s t h
  cases result with
  | error f => exact .fails h
  | ok a => exact .returns ⟨rfl, h⟩

/-- What does not depend on the clients is the same for twins, and so is what they meet with. -/
theorem agree_attempt {failure? : Depot → Option String} {spend : Depot → Depot}
    (hfailure : ∀ (d : Depot) clients, failure? { d with clients } = failure? d)
    (hspend : ∀ (d : Depot) clients, spend { d with clients } = { spend d with clients })
    (fault : String → Fault) :
    Agree (Alike ρ) Eq (attempt failure? spend fault) (attempt failure? spend fault) := by
  unfold attempt
  refine agree_depot.bind fun d e htwins => ?_
  have hsame : failure? e = failure? d := by
    rw [htwins.same]
    exact hfailure d _
  dsimp only
  rw [hsame]
  refine (agree_modifyDepot fun _ _ h => h.change (f := spend) hspend).next fun _ => ?_
  cases failure? d with
  | none => exact agree_pure rfl
  | some reason => exact agree_throw _

theorem agree_transact (fault : String → Fault) :
    Agree (Alike ρ) Eq (transact fault) (transact fault) :=
  agree_attempt (fun _ _ => rfl) (fun _ _ => rfl) fault

theorem agree_flushOut (fault : String → Fault) :
    Agree (Alike ρ) Eq (flushOut fault) (flushOut fault) :=
  agree_attempt (fun _ _ => rfl) (fun _ _ => rfl) fault

theorem agree_relabel {work work' : Work α} (f : Fault → Fault)
    (hwork : Agree (Alike ρ) Eq work work') :
    Agree (Alike ρ) Eq (work.relabel f) (work'.relabel f) := by
  intro s t h
  have hends := hwork s t h
  rw [relabel_apply, relabel_apply]
  generalize work s = done at hends ⊢
  generalize work' t = done' at hends ⊢
  cases hends with
  | returns h => exact .returns h
  | fails h => exact .fails h

/-! ### Repositories -/

theorem agree_openDirectory (r : Nat) (path : String) :
    Agree (Alike ρ) Eq (openDirectory r path) (openDirectory r path) := by
  unfold openDirectory
  refine agree_depot.bind fun d e htwins => ?_
  have hname : (e.repository r).name = (d.repository r).name := by rw [htwins.repository_eq]
  have hfiles : e.files = d.files := by rw [htwins.same]
  have hinUse : ∀ place, e.isInUse place = d.isInUse place := by
    intro place
    rw [htwins.same]
    rfl
  rw [hname, hfiles]
  cases d.files.makeDirectories path with
  | error f => exact agree_throw _
  | ok files =>
    refine (agree_modifyDepot fun _ _ _ => ?_).next fun _ => ?_
    · exact htwins.change (f := fun d => { d with files }) fun _ _ => rfl
    · cases files.find path with
      | error f => exact agree_throw _
      | ok found =>
        obtain ⟨place, node⟩ := found
        cases node with
        | directory =>
          dsimp only
          rw [hinUse]
          split
          · exact (agree_throw _).next fun _ => agree_pure rfl
          · exact agree_pure rfl
        | _ => exact agree_throw _

theorem agree_initialize_ (r : Nat) : Agree (Alike ρ) Eq (initialize_ r) (initialize_ r) := by
  unfold initialize_
  refine agree_depot.bind fun d e htwins => ?_
  rw [htwins.repository_eq]
  have hset : ∀ opened : Opened, Agree (Alike ρ) Eq
      (modifyDepot (·.setOpened r (some opened))) (modifyDepot (·.setOpened r (some opened))) :=
    fun opened => agree_modifyDepot fun _ _ h =>
      h.change (f := fun d => d.setOpened r (some opened)) fun _ _ => rfl
  dsimp only
  split
  · exact agree_pure rfl
  · cases (d.repository r).path with
    | none =>
      exact (agree_pure rfl).next fun opened =>
        (agree_note _ _ _).next fun _ => hset opened
    | some path =>
      exact (agree_openDirectory r path).next fun opened =>
        (agree_note _ _ _).next fun _ => hset opened

theorem agree_shutDown (r : Nat) : Agree (Alike ρ) Eq (shutDown r) (shutDown r) := by
  unfold shutDown
  refine agree_depot.bind fun d e htwins => ?_
  rw [htwins.repository_eq]
  dsimp only
  split
  · refine Agree.next (agree_modifyDepot fun _ _ h => ?_) fun _ => ?_
    · exact h.change (f := fun d => d.setOpened r none) fun _ _ => rfl
    · split
      · exact (agree_flushOut _).next fun _ => agree_note _ _ _
      · exact agree_note _ _ _
  · exact agree_pure rfl

theorem agree_data (r : Nat) : Agree (Alike ρ) Eq (data r) (data r) := by
  unfold data
  refine (agree_initialize_ r).next fun _ => agree_depot.bind fun d e htwins => ?_
  rw [htwins.data?_eq]
  exact agree_pure rfl

/-! ### Clients -/

/-- What is said of a client goes to the log only. -/
theorem agree_noteNamed (k l : Nat) (level : Level) (message : String → String)
    {next next' : Work α} (hnext : Agree (Alike ρ) Eq next next') :
    Agree (Alike ρ) Eq (do note level (message (← nameOf k)); next)
      (do note level (message (← nameOf l)); next') := by
  have hname : Agree (Alike ρ) (fun _ _ => True) (nameOf k) (nameOf l) :=
    fun _ _ h => .returns ⟨trivial, h⟩
  exact hname.bind fun _ _ _ => (agree_note _ _ _).next fun _ => hnext

section

variable (hρ : Function.Injective ρ)

include hρ

theorem agree_updateClient (k : Nat) {f g : Client → Client}
    (hfg : ∀ b c : Client, b.repository = c.repository → b.staged = c.staged →
      (g b).repository = (f c).repository ∧ (g b).staged = (f c).staged) :
    Agree (Alike ρ) Eq (modifyDepot (·.updateClient k f)) (modifyDepot (·.updateClient (ρ k) g)) :=
  agree_modifyDepot fun _ _ h => h.updateClient hρ k hfg

theorem agree_connect (k : Nat) : Agree (Alike ρ) Eq (connect k) (connect (ρ k)) := by
  unfold connect
  refine agree_depot.bind fun d e htwins => ?_
  rw [htwins.repository k]
  exact (agree_initialize_ _).next fun _ => agree_updateClient hρ k fun _ _ hr hs => ⟨hr, hs⟩

theorem agree_connectClient (r : Nat) :
    Agree (Alike ρ) (fun k l => l = ρ k) (connectClient r) (connectClient r) := by
  unfold connectClient
  refine (agree_initialize_ r).next fun _ => ?_
  have hnew : Agree (Alike ρ) (fun k l => l = ρ k) (newClient r) (newClient r) := by
    refine agree_depot.bind fun d e htwins => ?_
    have hname : (e.addClient r).1 = ρ (d.addClient r).1 := (htwins.later 0).symm
    exact (agree_modifyDepot fun _ _ _ => htwins.addClient hρ r).next fun _ => agree_pure hname
  refine hnew.bind fun k l hl => ?_
  rw [hl]
  exact (agree_connect hρ k).next fun _ => agree_pure rfl

theorem agree_openAsWorking (r : Nat) :
    Agree (Alike ρ) (fun k l => l = ρ k) (openAsWorking r) (openAsWorking r) :=
  (agree_initialize_ r).next fun _ => agree_connectClient hρ r

end

/-- Opening a repository, if it succeeds, opens it, unless there is no such repository. -/
theorem isOpen_initialize_ {s t : Depot × List Record} (hrun : initialize_ r s = (.ok (), t))
    (hr : r < t.1.repositories.length) : (t.1.repository r).opened.isSome = true := by
  have hset : ∀ (d : Depot) (opened : Opened),
      r < (d.setOpened r (some opened)).repositories.length →
      ((d.setOpened r (some opened)).repository r).opened.isSome = true := by
    intro d opened hr
    rw [setOpened, List.length_modify] at hr
    rw [repository_setOpened_self hr]
    rfl
  unfold initialize_ at hrun
  rw [bind_apply, depot_apply] at hrun
  dsimp only at hrun
  split at hrun
  · next hopen =>
    obtain rfl : s = t := congrArg Prod.snd hrun
    exact hopen
  · cases hpath : (s.1.repository r).path with
    | none =>
      rw [hpath] at hrun
      obtain rfl := congrArg Prod.snd hrun
      exact hset _ _ hr
    | some path =>
      rw [hpath] at hrun
      dsimp only at hrun
      rw [bind_apply] at hrun
      rcases hopening : openDirectory r path s with ⟨f | opened, u⟩
      · rw [hopening] at hrun
        cases hrun
      · rw [hopening] at hrun
        obtain rfl := congrArg Prod.snd hrun
        exact hset _ _ hr

/-- A repository that was opened is found open. -/
theorem initialize_again {s t : Depot × List Record} (hrun : initialize_ r s = (.ok (), t))
    (hsame : e.repositories = t.1.repositories) (records : List Record) :
    ∃ records', initialize_ r (e, records) = (.ok (), (e, records')) := by
  have hrepository : e.repository r = t.1.repository r := by rw [repository, repository, hsame]
  by_cases hr : r < t.1.repositories.length
  · unfold initialize_
    rw [bind_apply, depot_apply]
    dsimp only
    rw [hrepository, if_pos (isOpen_initialize_ hrun hr)]
    exact ⟨_, rfl⟩
  -- there is no such repository, and what is done to it is done to nothing
  · have hge := Nat.le_of_not_lt hr
    have hnone : t.1.repository r = default := by
      rw [repository, List.getD_eq_getElem?_getD, List.getElem?_eq_none hge]
      rfl
    have hset : e.setOpened r (some (.memory .empty)) = e := by
      rw [setOpened, List.modify_eq_self (hsame ▸ hge)]
    have hopens : ∃ records', initialize_ r (e, records) =
        (.ok (), (e.setOpened r (some (.memory .empty)), records')) := by
      unfold initialize_
      rw [bind_apply, depot_apply]
      dsimp only
      rw [hrepository, hnone]
      exact ⟨_, rfl⟩
    rwa [hset] at hopens

/-- A client reads the data of its repository, and is connected at most. -/
theorem clientData_apply (k : Nat) (s : Depot × List Record) :
    ∃ (g : Client → Client) (records : List Record),
      (∀ c, (g c).repository = c.repository ∧ (g c).staged = c.staged) ∧
      clientData k s = ((data (s.1.client k).repository s).1,
        ((data (s.1.client k).repository s).2.1.updateClient k g, records)) := by
  have hid : ∀ d : Depot, d.updateClient k id = d := fun d => by
    rw [updateClient, List.modify_id]
  unfold clientData
  rw [bind_apply, depot_apply]
  dsimp only
  by_cases hconnected : (s.1.client k).connected = true
  · refine ⟨id, (data (s.1.client k).repository s).2.2, fun _ => ⟨rfl, rfl⟩, ?_⟩
    simp only [hconnected, Bool.not_true, Bool.false_eq_true, if_false, hid]
    rfl
  · simp only [Bool.not_eq_true] at hconnected
    simp only [hconnected, Bool.not_false, if_true]
    have hdata : ∀ u, data (s.1.client k).repository u = (do
        initialize_ (s.1.client k).repository
        return ((← depot).data? (s.1.client k).repository).getD .empty) u := fun _ => rfl
    unfold connect
    rcases hrun : initialize_ (s.1.client k).repository s with ⟨f | _, t⟩
    · refine ⟨id, t.2, fun _ => ⟨rfl, rfl⟩, ?_⟩
      simp only [hdata, bind_apply, depot_apply, hrun, hid]
    · refine ⟨({ · with connected := true }), ?_⟩
      obtain ⟨records, hagain⟩ := initialize_again
        (e := t.1.updateClient k ({ · with connected := true })) hrun rfl t.2
      refine ⟨records, fun _ => ⟨rfl, rfl⟩, ?_⟩
      simp only [hdata, bind_apply, depot_apply, hrun, modifyDepot_apply, hagain]
      rfl

section

variable (hρ : Function.Injective ρ)

include hρ

theorem agree_clientData (k : Nat) : Agree (Alike ρ) Eq (clientData k) (clientData (ρ k)) := by
  intro s t hst
  obtain ⟨g, records, hg, hleft⟩ := clientData_apply k s
  obtain ⟨g', records', hg', hright⟩ := clientData_apply (ρ k) t
  have hends := agree_data (s.1.client k).repository s t hst
  rw [hst.repository k] at hright
  rw [hleft, hright]
  generalize data (s.1.client k).repository s = done at hends ⊢
  generalize data (s.1.client k).repository t = done' at hends ⊢
  have hchange : ∀ {d e : Depot}, Twins ρ d e →
      Twins ρ (d.updateClient k g) (e.updateClient (ρ k) g') := by
    intro d e htwins
    refine htwins.updateClient hρ k fun b c hr hs => ⟨?_, ?_⟩
    · rw [(hg' b).1, (hg c).1, hr]
    · rw [(hg' b).2, (hg c).2, hs]
  cases hends with
  | returns h => exact .returns ⟨h.1, hchange h.2⟩
  | fails h => exact .fails (hchange h)

theorem agree_rollback (k : Nat) : Agree (Alike ρ) Eq (rollback k) (rollback (ρ k)) :=
  agree_updateClient hρ k fun _ _ hr _ => ⟨hr, rfl⟩

theorem agree_disconnect (k : Nat) : Agree (Alike ρ) Eq (disconnect k) (disconnect (ρ k)) := by
  unfold disconnect
  refine agree_depot.bind fun d e htwins => ?_
  rw [htwins.staged k]
  have hupdate : Agree (Alike ρ) Eq
      (modifyDepot (·.updateClient k ({ · with staged := [], connected := false })))
      (modifyDepot (·.updateClient (ρ k) ({ · with staged := [], connected := false }))) :=
    agree_updateClient hρ k fun _ _ hr _ => ⟨hr, rfl⟩
  dsimp only
  split
  · exact agree_noteNamed k (ρ k) _ _ hupdate
  · exact hupdate

theorem agree_invalidate (k : Nat) : Agree (Alike ρ) Eq (invalidate k) (invalidate (ρ k)) := by
  unfold invalidate
  refine agree_depot.bind fun d e htwins => ?_
  rw [htwins.staged k]
  dsimp only
  split
  · refine agree_noteNamed k (ρ k) _ (fun name => _) (agree_disconnect hρ k)
  · exact agree_disconnect hρ k

theorem agree_commit (k : Nat) : Agree (Alike ρ) Eq (commit k) (commit (ρ k)) := by
  unfold commit
  refine agree_depot.bind fun d e htwins => ?_
  dsimp only
  rw [htwins.staged k, htwins.repository k]
  split
  · exact agree_pure rfl
  · refine (agree_relabel _ (agree_clientData hρ k)).next fun before => ?_
    refine (agree_transact _).next fun _ => ?_
    refine Agree.next (agree_modifyDepot fun _ _ h => h.setData _ _) fun _ => ?_
    exact agree_noteNamed k (ρ k) _ _ (agree_rollback hρ k)

omit hρ in
theorem agree_flush (k : Nat) : Agree (Alike ρ) Eq (flush k) (flush (ρ k)) := by
  unfold flush
  refine agree_depot.bind fun d e htwins => ?_
  dsimp only
  rw [htwins.repository k, htwins.repository_eq]
  cases (d.repository (d.client k).repository).durability with
  | onCommit => exact agree_pure rfl
  | onShutdown =>
    refine agree_noteNamed k (ρ k) _ _ ?_
    exact (agree_relabel _ (agree_shutDown _)).next fun _ => agree_relabel _ (agree_initialize_ _)

theorem agree_write [Document.Fetcher] (k : Nat) (w : Write) :
    Agree (Alike ρ) Eq (write k w) (write (ρ k) w) := by
  unfold write
  refine agree_depot.bind fun d e htwins => ?_
  rw [htwins.changes_eq]
  refine (agree_lift _).next fun changed => ?_
  have hstage : Agree (Alike ρ) Eq
      (modifyDepot fun d =>
        { d.updateClient k (fun c => { c with staged := c.staged ++ changed.1 }) with
          blanks := d.blanks + changed.2 })
      (modifyDepot fun d =>
        { d.updateClient (ρ k) (fun c => { c with staged := c.staged ++ changed.1 }) with
          blanks := d.blanks + changed.2 }) := by
    refine agree_modifyDepot fun d e htwins => ?_
    have hblanks := htwins.change (f := fun d => { d with blanks := d.blanks + changed.2 })
      fun _ _ => rfl
    exact hblanks.updateClient hρ k fun _ _ hr hs => ⟨hr, congrArg (· ++ changed.1) hs⟩
  cases w with
  | addData url base context => exact (agree_note _ _ _).next fun _ => hstage
  | _ => exact hstage

theorem agree_query [Engine] (k : Nat)
    (answerOf : String → Engine.Query → List Quad → Except Fault α) (text : String) :
    Agree (Alike ρ) Eq (query k answerOf text) (query (ρ k) answerOf text) := by
  unfold query
  refine (agree_lift _).next fun q => (agree_clientData hρ k).next fun dataset => ?_
  exact agree_lift _

theorem agree_update [Engine] (k : Nat) (text : String) :
    Agree (Alike ρ) Eq (update k text) (update (ρ k) text) := by
  unfold update
  cases Engine.readRequest? text with
  | none => exact agree_throw _
  | some request =>
    refine (agree_clientData hρ k).next fun before => agree_depot.bind fun d e htwins => ?_
    have hblanks : e.blanks = d.blanks := by rw [htwins.same]
    dsimp only
    rw [hblanks]
    cases Engine.carryOut request d.blanks before with
    | error reason => exact agree_throw _
    | ok done =>
      refine (agree_transact _).next fun _ => agree_modifyDepot fun d e htwins => ?_
      have hblanks : e.blanks = d.blanks := by rw [htwins.same]
      rw [htwins.repository k, hblanks]
      exact (htwins.setData _ done.1).change
        (f := fun f => { f with blanks := d.blanks + done.2 }) fun _ _ => rfl

theorem agree_act [Engine] (k : Nat) (a : Action) : Agree (Alike ρ) Eq (act k a) (act (ρ k) a) := by
  cases a with
  | connect => exact agree_connect hρ k
  | disconnect => exact agree_disconnect hρ k
  | commit => exact agree_commit hρ k
  | rollback => exact agree_rollback hρ k
  | flush => exact agree_flush k
  | invalidate => exact agree_invalidate hρ k
  | write w => exact agree_write hρ k w
  | update text => exact agree_update hρ k text

end

/-! ## Stores over twins -/

/-- Stores over twins, with logs that keep records of the same levels. -/
structure OverTwins (ρ : Nat → Nat) (o o' : Outside (Recorded Depot)) : Prop where
  twins : Twins ρ o.stores.stores o'.stores.stores
  threshold : o.log.threshold = o'.log.threshold

theorem OverTwins.note {o o' : Outside (Recorded Depot)} (ho : OverTwins ρ o o') (level : Level)
    (target message message' : String) :
    OverTwins ρ (o.note level target message) (o'.note level target message') := by
  refine ⟨ho.twins, ?_⟩
  simp only [Outside.note, Log.threshold_add]
  exact ho.threshold

/-- Work on twins is answered alike. -/
theorem agree_respond {V : α → β → Prop} {work : Work α} {work' : Work β}
    (hwork : Agree (Alike ρ) V work work') (q q' : Question) :
    Agree (OverTwins ρ) V (Job.call fun r : Recorded Depot => r.put q work.respond)
      (Job.call fun r : Recorded Depot => r.put q' work'.respond) := by
  intro o o' ho
  have hends := hwork (o.stores.stores, []) (o'.stores.stores, []) ho.twins
  rw [Job.call_apply, Job.call_apply]
  simp only [Recorded.put, respond, ExceptT.run]
  generalize work (o.stores.stores, []) = done at hends ⊢
  generalize work' (o'.stores.stores, []) = done' at hends ⊢
  have hlogs : ∀ records records', (o.log.addAll records).threshold =
      (o'.log.addAll records').threshold := by
    intro records records'
    rw [Log.threshold_addAll, Log.threshold_addAll]
    exact ho.threshold
  cases hends with
  | returns h => exact .returns ⟨h.1, h.2, hlogs _ _⟩
  | fails h => exact .fails ⟨h, hlogs _ _⟩

end Depot

/-- The client with another number. -/
def ClientId.rename (ρ : Nat → Nat) (k : ClientId) : ClientId := ⟨ρ k.number⟩

namespace Depot

variable {ρ : Nat → Nat}

/-- Nothing that is asked of depots tells twins apart. -/
theorem mirrors_twins [Engine] (hρ : Function.Injective ρ) :
    Mirrors (OverTwins ρ) (ClientId.rename ρ) := by
  have hclient : ∀ {work : Work Nat}, Agree (Alike ρ) (fun k l => l = ρ k) work work →
      Agree (Alike ρ) (fun k l => l = ClientId.rename ρ k) (ClientId.mk <$> work)
        (ClientId.mk <$> work) :=
    fun hwork => agree_map hwork fun _ _ => congrArg ClientId.mk
  exact {
    note := fun level target message message' _ ho => ho.note level target message message'
    threshold := fun ho => ho.threshold
    durability := fun k ho => by
      change (Depot.repository _ (Depot.client _ k.number).repository).durability =
        (Depot.repository _ (Depot.client _ (ρ k.number)).repository).durability
      rw [ho.twins.repository, ho.twins.repository_eq]
    act := fun k a => agree_respond (agree_act hρ k.number a) _ _
    select := fun k text => agree_respond (agree_query hρ k.number rowsOf text) _ _
    ask := fun k text => agree_respond (agree_query hρ k.number verdictOf text) _ _
    create := agree_respond (hclient (agree_connectClient hρ main)) _ _
    openWorking := agree_respond (hclient (agree_openAsWorking hρ working)) _ _
    shutDownWorking := agree_respond (agree_shutDown working) _ _ }

end Depot

end GraphCommit
