import GraphCommit.Proofs.Store.Working

/-!
# What a derivation sees of a depot

While the working repository is open (`WorkingOpen`), its clients are answered from little of the
depot: the files, the number of the next blank node, the clients, what transactions meet with, and
the quads of the working repository (its `Desk`).  Each call of these clients, and each write of any
client, is a function on desks (`Acts`).  So two depots with the same desk cannot be told apart by a
derivation (`Decides`).
-/

namespace GraphCommit

open Depot.Work

/-- What a derivation sees of a depot. -/
structure Desk where
  files : Files
  blanks : Nat
  clients : List Client
  failures : List (Option String)
  flushes : List (Option String)
  /-- The quads of the working repository. -/
  quads : List Quad

namespace Depot

variable {d e : Depot} {k r : Nat} {α : Type} {s : Depot × List Record}

/-- The working repository is open, in memory or in the directory that its path leads to.  Nobody
else has this directory open. -/
inductive WorkingOpen (d : Depot) : Prop
  | memory {data : Dataset} (hpath : (d.repository working).path = none)
      (hopened : (d.repository working).opened = some (.memory data))
  | directory {path : String} {place : Files.Place}
      (hpath : (d.repository working).path = some path)
      (hopened : (d.repository working).opened = some (.directory place))
      (hplace : d.files.find path = .ok (place, .directory))
      (halone : ∀ r, r ≠ working → (d.repository r).opened ≠ some (.directory place))

/-- The data of the working repository. -/
def workingData (d : Depot) : Dataset := (d.data? working).getD .empty

def desk (d : Depot) : Desk :=
  ⟨d.files, d.blanks, d.clients, d.failures, d.flushes, d.workingData.quads⟩

theorem WorkingOpen.isOpen (hd : d.WorkingOpen) :
    (d.repository working).opened.isSome = true := by
  cases hd with
  | memory hpath hopened => rw [hopened]; rfl
  | directory hpath hopened hplace halone => rw [hopened]; rfl

/-- Nothing but the repositories and the files decides whether the working repository is open. -/
theorem WorkingOpen.of_same (hd : d.WorkingOpen) (hrepositories : e.repositories = d.repositories)
    (hfiles : e.files = d.files) : e.WorkingOpen := by
  have hsame : ∀ r, e.repository r = d.repository r := fun r => by
    rw [repository, repository, hrepositories]
  cases hd with
  | memory hpath hopened =>
    exact .memory (by rwa [hsame]) (by rw [hsame]; exact hopened)
  | directory hpath hopened hplace halone =>
    refine .directory (by rw [hsame]; exact hpath) (by rw [hsame]; exact hopened)
      (by rw [hfiles]; exact hplace) fun r hr => ?_
    rw [hsame]
    exact halone r hr

/-- Replacing the data of the working repository changes nothing else that can be seen. -/
theorem workingOpen_setData (hd : d.WorkingOpen) (data : Dataset) :
    (d.setData working data).WorkingOpen ∧
      (d.setData working data).desk = { d.desk with quads := data.quads } := by
  have hdata : (d.setData working data).workingData = data := by
    rw [workingData, data?_setData hd.isOpen]
    rfl
  rw [desk, hdata]
  cases hd with
  | @memory before hpath hopened =>
    have hset : d.setData working data = d.setOpened working (some (.memory data)) := by
      simp only [setData, hopened]
    have hrepository := repository_setOpened_self (lt_of_opened hopened) (some (.memory data))
    rw [hset]
    exact ⟨.memory (by rw [hrepository]; exact hpath) (by rw [hrepository]), rfl⟩
  | @directory path place hpath hopened hplace halone =>
    have hset : d.setData working data = d.save place data := by
      simp only [setData, hopened]
    rw [hset]
    exact ⟨.directory hpath hopened hplace halone, rfl⟩

end Depot

/-! ## Calls as functions on desks -/

namespace Desk

variable {d : Desk} {k : Nat}

def client (d : Desk) (k : Nat) : Client := d.clients.getD k default

def updateClient (d : Desk) (k : Nat) (g : Client → Client) : Desk :=
  { d with clients := d.clients.modify k g }

/-- The reason why the next transaction fails, if it does. -/
def failure? (d : Desk) : Option String := d.failures.head?.join

def spend (d : Desk) : Desk := { d with failures := d.failures.tail }

/-- The changes that a write stages depend on the files and on the blank nodes. -/
def changes [Document.Fetcher] (d : Desk) (w : Write) : Except Fault (List Staged × Nat) :=
  ({ files := d.files, blanks := d.blanks } : Depot).changes w

def write [Document.Fetcher] (k : Nat) (w : Write) (d : Desk) : Except Fault Unit × Desk :=
  match d.changes w with
  | .error f => (.error f, d)
  | .ok (staged, blanks) =>
    (.ok (), { d.updateClient k (fun c => { c with staged := c.staged ++ staged }) with
      blanks := d.blanks + blanks })

def connect (k : Nat) (d : Desk) : Desk :=
  if (d.client k).connected then d else d.updateClient k ({ · with connected := true })

def commit (k : Nat) (d : Desk) : Except Fault Unit × Desk :=
  if (d.client k).staged = [] then (.ok (), d)
  else match d.failure? with
    | some reason => (.error (.commit reason), (d.connect k).spend)
    | none => (.ok (), { (d.connect k).spend.updateClient k ({ · with staged := [] }) with
      quads := (Dataset.applyAll ⟨d.quads, []⟩ (d.client k).staged).quads })

def disconnect (k : Nat) (d : Desk) : Except Fault Unit × Desk :=
  (.ok (), d.updateClient k ({ · with staged := [], connected := false }))

def query [Engine] {α : Type} (k : Nat)
    (answerOf : String → Engine.Query → List Quad → Except Fault α) (text : String) (d : Desk) :
    Except Fault α × Desk :=
  (Depot.solveBy answerOf text ⟨d.quads, []⟩,
    if (Depot.query? text).isOk then d.connect k else d)

/-- A client of the working repository is added. -/
def join (d : Desk) : Except Fault Nat × Desk :=
  (.ok d.clients.length,
    { d with clients := d.clients ++ [{ repository := Depot.working, connected := true }] })

/-- The repository of each client. -/
def repositories (d : Desk) : List Nat := d.clients.map Client.repository

variable {g : Client → Client} {w : Write}

theorem repositories_updateClient (hg : ∀ c, (g c).repository = c.repository) :
    (d.updateClient k g).repositories = d.repositories := by
  refine List.ext_getElem? fun j => ?_
  simp only [repositories, updateClient, List.getElem?_map, List.getElem?_modify]
  cases d.clients[j]? with
  | none => rfl
  | some c =>
    simp only [Option.map_some]
    split
    · exact congrArg some (hg c)
    · rfl

theorem repositories_connect : (d.connect k).repositories = d.repositories := by
  unfold connect
  split
  · rfl
  · exact repositories_updateClient (g := ({ · with connected := true })) fun _ => rfl

theorem repositories_write [Document.Fetcher] : (d.write k w).2.repositories = d.repositories := by
  unfold write
  split
  · rfl
  · exact repositories_updateClient fun _ => rfl

theorem repositories_commit : (d.commit k).2.repositories = d.repositories := by
  have hspend : (d.connect k).spend.repositories = d.repositories :=
    repositories_connect (d := d)
  unfold commit
  split
  · rfl
  · split
    · exact hspend
    · exact (repositories_updateClient (g := ({ · with staged := [] })) fun _ => rfl).trans hspend

theorem repositories_disconnect : (d.disconnect k).2.repositories = d.repositories :=
  repositories_updateClient (g := ({ · with staged := [], connected := false })) fun _ => rfl

theorem repositories_query [Engine] {α : Type}
    (answerOf : String → Engine.Query → List Quad → Except Fault α) (text : String) :
    (d.query k answerOf text).2.repositories = d.repositories := by
  unfold query
  dsimp only
  split
  · exact repositories_connect
  · rfl

theorem failures_connect : (d.connect k).failures = d.failures := by
  unfold connect
  split <;> rfl

/-! Calls add nothing to what transactions and flushes meet with. -/

/-- Every transaction and every flush succeeds. -/
def IsSound (d : Desk) : Prop := d.failures = [] ∧ d.flushes = []

theorem sound_connect (hd : d.IsSound) : (d.connect k).IsSound := by
  unfold connect
  split <;> exact hd

theorem sound_write [Document.Fetcher] (hd : d.IsSound) : (d.write k w).2.IsSound := by
  unfold write
  split <;> exact hd

theorem sound_commit (hd : d.IsSound) : (d.commit k).2.IsSound := by
  have hspent : (d.connect k).spend.IsSound := by
    obtain ⟨hfailures, hflushes⟩ := sound_connect (k := k) hd
    exact ⟨congrArg List.tail hfailures, hflushes⟩
  unfold commit
  split
  · exact hd
  · split <;> exact hspent

theorem result_commit (hd : d.IsSound) : (d.commit k).1 = .ok () := by
  have hnone : d.failure? = none := by
    rw [failure?, hd.1]
    rfl
  unfold commit
  rw [hnone]
  split <;> rfl

theorem sound_query [Engine] {α : Type} (hd : d.IsSound)
    (answerOf : String → Engine.Query → List Quad → Except Fault α) (text : String) :
    (d.query k answerOf text).2.IsSound := by
  unfold query
  dsimp only
  split
  · exact sound_connect hd
  · exact hd

/-- A client of the working repository is one of those that there are. -/
theorem exist_of_repositories (hk : d.repositories[k]? = some Depot.working) :
    k < d.clients.length := by
  obtain ⟨hlt, -⟩ := List.getElem?_eq_some_iff.mp hk
  simpa [repositories] using hlt

theorem repository_of_repositories (hk : d.repositories[k]? = some Depot.working) :
    (d.client k).repository = Depot.working := by
  have hlt := exist_of_repositories hk
  simpa [repositories, client, List.getD_eq_getElem?_getD, hlt] using hk

end Desk

theorem Dataset.quads_applyAll {d e : Dataset} (hquads : d.quads = e.quads) (staged : List Staged) :
    (d.applyAll staged).quads = (e.applyAll staged).quads := by
  induction staged generalizing d e with
  | nil => exact hquads
  | cons change rest ih =>
    refine ih (d := d.apply change) (e := e.apply change) ?_
    cases change with
    | insert q => simp only [apply, insert, hquads]
    | remove q => simp only [apply, remove, hquads]
    | clear graph => simp only [apply, clear, hquads]

namespace Depot

variable {d e : Depot} {k r : Nat} {α : Type} {s : Depot × List Record}

/-- Work on a depot whose working repository is open is this function on its desk. -/
def Acts (work : Work α) (call : Desk → Except Fault α × Desk) (s : Depot × List Record) : Prop :=
  ∃ t, work s = ((call s.1.desk).1, t) ∧ t.1.WorkingOpen ∧ t.1.desk = (call s.1.desk).2

theorem initialize_working (hs : s.1.WorkingOpen) : initialize_ working s = (.ok (), s) := by
  unfold initialize_
  rw [Effect.bind_apply, depot_apply]
  simp only [if_pos hs.isOpen]
  rfl

/-- What a client of the open working repository works on. -/
theorem clientData_working (hs : s.1.WorkingOpen) (hk : (s.1.client k).repository = working) :
    ∃ t, clientData k s = (.ok s.1.workingData, t) ∧ t.1.WorkingOpen ∧
      t.1.workingData = s.1.workingData ∧ t.1.desk = s.1.desk.connect k := by
  have hdata : ∀ t : Depot × List Record, t.1.WorkingOpen →
      data working t = (.ok t.1.workingData, t) := by
    intro t ht
    unfold data
    rw [Effect.bind_apply, initialize_working ht]
    rfl
  unfold clientData
  rw [Effect.bind_apply, depot_apply]
  simp only [hk]
  cases hconnected : (s.1.client k).connected with
  | true =>
    refine ⟨s, hdata s hs, hs, rfl, ?_⟩
    have hclient : (s.1.desk.client k).connected = true := hconnected
    rw [Desk.connect, if_pos hclient]
  | false =>
    have hconnect : connect k s =
        (.ok (), (s.1.updateClient k ({ · with connected := true }), s.2)) := by
      unfold connect
      rw [Effect.bind_apply, depot_apply]
      simp only [hk]
      rw [Effect.bind_apply, initialize_working hs]
      rfl
    have hopen : (s.1.updateClient k ({ · with connected := true })).WorkingOpen :=
      hs.of_same rfl rfl
    simp only [Bool.not_false, if_true, Effect.bind_apply, hconnect]
    refine ⟨_, hdata (s.1.updateClient k ({ · with connected := true }), s.2) hopen, hopen, rfl, ?_⟩
    have hclient : ¬ (s.1.desk.client k).connected = true := by
      rw [show (s.1.desk.client k).connected = false from hconnected]
      simp
    rw [Desk.connect, if_neg hclient]
    rfl

theorem acts_write [Document.Fetcher] (hs : s.1.WorkingOpen) (k : Nat) (w : Write) :
    Acts (write k w) (Desk.write k w) s := by
  have hchanges : s.1.desk.changes w = s.1.changes w := by
    cases w <;> rfl
  unfold Acts Desk.write write
  rw [hchanges, Effect.bind_apply, depot_apply]
  simp only [Effect.bind_apply, lift_apply]
  rcases s.1.changes w with f | ⟨staged, blanks⟩
  · exact ⟨s, rfl, hs, rfl⟩
  · have hopen : ({ s.1.updateClient k (fun c => { c with staged := c.staged ++ staged }) with
        blanks := s.1.blanks + blanks } : Depot).WorkingOpen := hs.of_same rfl rfl
    cases w <;> exact ⟨_, rfl, hopen, rfl⟩

theorem acts_disconnect (hs : s.1.WorkingOpen) (k : Nat) :
    Acts (disconnect k) (Desk.disconnect k) s := by
  obtain ⟨records, hdisconnect⟩ := disconnect_apply k s
  exact ⟨_, hdisconnect, hs.of_same rfl rfl, rfl⟩

/-- A commit is a function of the quads: the graphs that are known make no difference. -/
theorem acts_commit (hs : s.1.WorkingOpen) (hk : (s.1.client k).repository = working) :
    Acts (commit k) (Desk.commit k) s := by
  have hclient : s.1.desk.client k = s.1.client k := rfl
  unfold Acts Desk.commit commit
  rw [Effect.bind_apply, depot_apply, hclient]
  simp only [List.isEmpty_iff]
  by_cases hstaged : (s.1.client k).staged = []
  · simp only [if_pos hstaged]
    exact ⟨s, rfl, hs, rfl⟩
  · simp only [if_neg hstaged]
    -- to look at the data may connect the client, but it is no transaction
    obtain ⟨t, hdata, hopen, -, hdesk⟩ := clientData_working hs hk
    have hfailures : t.1.desk.failures = s.1.desk.failures := by
      rw [hdesk, Desk.failures_connect]
    have hfailure : t.1.failure? = s.1.desk.failure? :=
      congrArg (fun failures : List (Option String) => failures.head?.join) hfailures
    have hspent : t.1.spend.WorkingOpen := hopen.of_same rfl rfl
    have hspentDesk : t.1.spend.desk = (s.1.desk.connect k).spend := congrArg Desk.spend hdesk
    rw [Effect.bind_apply, relabel_apply, hdata]
    simp only [Except.mapError]
    rw [Effect.bind_apply, transact_apply, hfailure]
    cases s.1.desk.failure? with
    | some reason => exact ⟨(t.1.spend, t.2), rfl, hspent, hspentDesk⟩
    | none =>
      obtain ⟨hset, hsetDesk⟩ :=
        workingOpen_setData hspent (s.1.workingData.applyAll (s.1.client k).staged)
      dsimp only
      rw [Effect.bind_apply, modifyDepot_apply]
      simp only [hk]
      obtain ⟨records, hnoted⟩ := noteNamed_apply
        (s := (t.1.spend.setData working (s.1.workingData.applyAll (s.1.client k).staged), t.2)) k
        .debug (fun name => "committed " ++ toString (s.1.client k).staged.length ++
          " writes to " ++ name) fun _ => rollback k
      rw [hnoted]
      refine ⟨((t.1.spend.setData working
        (s.1.workingData.applyAll (s.1.client k).staged)).updateClient k
        ({ · with staged := [] }), records), rfl, hset.of_same rfl rfl, ?_⟩
      have hafter : ∀ e : Depot, (e.updateClient k ({ · with staged := [] })).desk =
          e.desk.updateClient k ({ · with staged := [] }) := fun _ => rfl
      change ((t.1.spend.setData working
        (s.1.workingData.applyAll (s.1.client k).staged)).updateClient k _).desk = _
      rw [hafter, hsetDesk, hspentDesk,
        Dataset.quads_applyAll (d := s.1.workingData) (e := ⟨s.1.desk.quads, []⟩) rfl]
      rfl

theorem acts_query [Engine] (hs : s.1.WorkingOpen) (hk : (s.1.client k).repository = working)
    (answerOf : String → Engine.Query → List Quad → Except Fault α) (text : String) :
    Acts (query k answerOf text) (Desk.query k answerOf text) s := by
  unfold Acts Desk.query query solveBy
  rw [Effect.bind_apply, lift_apply]
  cases query? text with
  | error f => exact ⟨s, rfl, hs, rfl⟩
  | ok q =>
    obtain ⟨t, hdata, hopen, -, hdesk⟩ := clientData_working hs hk
    simp only [Effect.bind_apply, hdata, lift_apply]
    exact ⟨t, rfl, hopen, hdesk⟩

theorem acts_connectClient (hs : s.1.WorkingOpen) : Acts (connectClient working) Desk.join s := by
  have hadded : (s.1.addClient working).2.WorkingOpen := hs.of_same rfl rfl
  have hconnect : connect s.1.clients.length ((s.1.addClient working).2, s.2) =
      (.ok (), ((s.1.addClient working).2.updateClient s.1.clients.length
        ({ · with connected := true }), s.2)) := by
    -- the new client stands at the end, where connecting it finds it
    unfold connect
    rw [Effect.bind_apply, depot_apply]
    simp only [client_addClient]
    rw [Effect.bind_apply, initialize_working (s := (_, s.2)) hadded]
    rfl
  have hclients : (s.1.clients ++ [({ repository := working } : Client)]).modify s.1.clients.length
      ({ · with connected := true }) =
        s.1.clients ++ [{ repository := working, connected := true }] := by
    rw [List.modify_eq_take_cons_drop (by simp)]
    simp
  unfold Acts connectClient
  rw [Effect.bind_apply, initialize_working hs]
  refine ⟨((s.1.addClient working).2.updateClient s.1.clients.length
    ({ · with connected := true }), s.2), ?_, hadded.of_same rfl rfl, ?_⟩
  · change ((connect s.1.clients.length >>= fun _ => pure s.1.clients.length) :
      Work Nat) ((s.1.addClient working).2, s.2) = _
    rw [Effect.bind_apply, hconnect]
    rfl
  · exact congrArg (fun clients => (⟨s.1.files, s.1.blanks, clients, s.1.failures, s.1.flushes,
      s.1.workingData.quads⟩ : Desk)) hclients

/-- As long as the working repository is open and a client is one of its own, this function on the
desk decides what some work of a derivation does. -/
structure Decides (k : Nat) (work : Work α) (call : Desk → Except Fault α × Desk) : Prop where
  acts : ∀ d : Depot, d.WorkingOpen → d.desk.repositories[k]? = some working →
    Acts work call (d, [])
  repositories : ∀ d : Desk, (call d).2.repositories = d.repositories
  sound : ∀ d : Desk, d.IsSound → (call d).2.IsSound

/-- Every client may write. -/
theorem decides_write [Document.Fetcher] (k j : Nat) (w : Write) :
    Decides k (write j w) (Desk.write j w) where
  acts := fun d hd _ => acts_write (s := (d, [])) hd j w
  repositories := fun _ => Desk.repositories_write
  sound := fun _ hd => Desk.sound_write hd

theorem decides_commit (k : Nat) : Decides k (commit k) (Desk.commit k) where
  acts := fun d hd hk => acts_commit (s := (d, [])) hd (Desk.repository_of_repositories hk)
  repositories := fun _ => Desk.repositories_commit
  sound := fun _ hd => Desk.sound_commit hd

theorem decides_disconnect (k : Nat) : Decides k (disconnect k) (Desk.disconnect k) where
  acts := fun d hd _ => acts_disconnect (s := (d, [])) hd k
  repositories := fun _ => Desk.repositories_disconnect
  sound := fun _ hd => hd

theorem decides_query [Engine] (k : Nat)
    (answerOf : String → Engine.Query → List Quad → Except Fault α) (text : String) :
    Decides k (query k answerOf text) (Desk.query k answerOf text) where
  acts := fun d hd hk =>
    acts_query (s := (d, [])) hd (Desk.repository_of_repositories hk) answerOf text
  repositories := fun _ => Desk.repositories_query answerOf text
  sound := fun _ hd => Desk.sound_query hd answerOf text

end Depot

end GraphCommit
