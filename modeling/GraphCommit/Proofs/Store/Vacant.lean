import GraphCommit.Proofs.Store.Desk

/-!
# A working repository without quads

As long as a client of the working repository has staged nothing outside one context, all quads stay
in this context (`Desk.Within`), and clearing it leaves none if transactions succeed.

The working repository is vacant if it has no quads, be it open, closed in memory, or closed with a
directory in which nothing is saved.  A vacant repository is opened without quads, and if it is
closed without quads it is vacant again.  How it is opened does not depend on how it came to be
vacant (`opening_renewed`), so a repository that was made anew is opened to the same desk.
-/

namespace GraphCommit

open Depot.Work

/-! ## Quads of one context -/

/-- A change that brings no quad into another context. -/
def Staged.IsIn (context : String) : Staged → Prop
  | .insert q => q.graph = some context
  | .remove _ => True
  | .clear _ => True

theorem Dataset.graph_of_applyAll {d : Dataset} {staged : List Staged} {context : String}
    (hquads : ∀ q ∈ d.quads, q.graph = some context)
    (hstaged : ∀ change ∈ staged, change.IsIn context) :
    ∀ q ∈ (d.applyAll staged).quads, q.graph = some context := by
  induction staged generalizing d with
  | nil => exact hquads
  | cons change rest ih =>
    refine ih (d := d.apply change) ?_ fun later hlater =>
      hstaged later (List.mem_cons_of_mem change hlater)
    have hchange := hstaged change List.mem_cons_self
    intro q hq
    cases change with
    | insert new =>
      rcases (mem_quads_insert d new q).mp hq with rfl | hold
      · exact hchange
      · exact hquads q hold
    | remove old => exact hquads q ((mem_quads_remove d old q).mp hq).1
    | clear graph => exact hquads q ((mem_quads_clear d (some graph) q).mp hq).1

theorem Dataset.quads_clear {d : Dataset} {context : String}
    (hquads : ∀ q ∈ d.quads, q.graph = some context) : (d.clear (some context)).quads = [] := by
  rw [List.eq_nil_iff_forall_not_mem]
  intro q hq
  obtain ⟨hmem, hgraph⟩ := (mem_quads_clear d (some context) q).mp hq
  exact hgraph (hquads q hmem)

/-- A write stages changes of its own context. -/
theorem Depot.isIn_of_changes [Document.Fetcher] {d : Depot} {w : Write} {staged : List Staged}
    {blanks : Nat} (hchanges : d.changes w = .ok (staged, blanks)) :
    ∀ change ∈ staged, change.IsIn w.context := by
  have hgraph : ∀ {text graph : String}, Depot.context text = .ok graph → graph = text := by
    intro text graph hcontext
    unfold Depot.context at hcontext
    split at hcontext
    · exact (Except.ok.inj hcontext).symm
    · contradiction
  intro change hchange
  cases w with
  | addData url base contextName =>
    obtain ⟨graph, hcontext, hrest⟩ := Effect.exists_of_bind_eq_ok hchanges
    obtain ⟨contents, -, hstaged⟩ := Effect.exists_of_bind_eq_ok hrest
    obtain ⟨rfl, -⟩ := Prod.mk.inj (Except.ok.inj hstaged)
    obtain ⟨statement, -, rfl⟩ := List.mem_map.mp hchange
    exact congrArg some (hgraph hcontext)
  | addTriple t contextName =>
    obtain ⟨q, hquad, hstaged⟩ := Effect.exists_of_bind_eq_ok hchanges
    obtain ⟨rfl, -⟩ := Prod.mk.inj (Except.ok.inj hstaged)
    obtain rfl := List.mem_singleton.mp hchange
    obtain ⟨graph, hcontext, hrest⟩ := Effect.exists_of_bind_eq_ok hquad
    obtain ⟨subject, -, hrest⟩ := Effect.exists_of_bind_eq_ok hrest
    obtain ⟨predicate, -, hrest⟩ := Effect.exists_of_bind_eq_ok hrest
    obtain ⟨object, -, hrest⟩ := Effect.exists_of_bind_eq_ok hrest
    obtain rfl := Except.ok.inj hrest
    exact congrArg some (hgraph hcontext)
  | removeTriple t contextName =>
    obtain ⟨q, -, hstaged⟩ := Effect.exists_of_bind_eq_ok hchanges
    obtain ⟨rfl, -⟩ := Prod.mk.inj (Except.ok.inj hstaged)
    obtain rfl := List.mem_singleton.mp hchange
    trivial
  | clear contextName =>
    obtain ⟨graph, -, hstaged⟩ := Effect.exists_of_bind_eq_ok hchanges
    obtain ⟨rfl, -⟩ := Prod.mk.inj (Except.ok.inj hstaged)
    obtain rfl := List.mem_singleton.mp hchange
    trivial

namespace Desk

variable {d : Desk} {k j : Nat} {context : String} {g : Client → Client} {w : Write}

theorem client_updateClient_self (hk : k < d.clients.length) :
    (d.updateClient k g).client k = g (d.client k) :=
  Depot.client_updateClient_self (d := { files := d.files, clients := d.clients }) hk g

theorem client_updateClient_ne (hj : j ≠ k) : (d.updateClient k g).client j = d.client j :=
  Depot.client_updateClient_ne (d := { files := d.files, clients := d.clients }) hj g

/-- A client of the working repository has staged nothing outside a context, and nothing else is in
the repository. -/
structure Within (context : String) (k : Nat) (d : Desk) : Prop where
  client : d.repositories[k]? = some Depot.working
  quads : ∀ q ∈ d.quads, q.graph = some context
  staged : ∀ change ∈ (d.client k).staged, change.IsIn context

theorem Within.connect (hd : d.Within context k) : (d.connect k).Within context k where
  client := repositories_connect.symm ▸ hd.client
  quads := by
    unfold Desk.connect
    split <;> exact hd.quads
  staged := by
    unfold Desk.connect
    split
    · exact hd.staged
    · rw [client_updateClient_self (exist_of_repositories hd.client)]
      exact hd.staged

theorem Within.write [Document.Fetcher] (hd : d.Within context k) (hw : w.context = context) :
    (d.write k w).2.Within context k := by
  refine ⟨repositories_write.symm ▸ hd.client, ?_, ?_⟩ <;> unfold Desk.write
  · split <;> exact hd.quads
  · split
    · exact hd.staged
    · next staged blanks hchanges =>
      -- a quad of a document or of a triple is in the context that the write names
      have hclient := client_updateClient_self (d := d)
        (g := fun c => { c with staged := c.staged ++ staged }) (exist_of_repositories hd.client)
      intro change hchange
      rcases List.mem_append.mp (congrArg Client.staged hclient ▸ hchange) with hold | hnew
      · exact hd.staged change hold
      · exact hw ▸ Depot.isIn_of_changes hchanges change hnew

/-- Another client may write whatever it likes. -/
theorem Within.write_other [Document.Fetcher] (hd : d.Within context k) (hj : k ≠ j) (w : Write) :
    (d.write j w).2.Within context k := by
  refine ⟨repositories_write.symm ▸ hd.client, ?_, ?_⟩ <;> unfold Desk.write
  · split <;> exact hd.quads
  · split
    · exact hd.staged
    · next staged blanks _ =>
      have hclient := client_updateClient_ne (d := d) (g := fun c =>
        { c with staged := c.staged ++ staged }) hj
      exact fun change hchange => hd.staged change (congrArg Client.staged hclient ▸ hchange)

theorem Within.spend (hd : d.Within context k) : d.spend.Within context k :=
  ⟨hd.client, hd.quads, hd.staged⟩

/-- A commit stages nothing, and what it brings into the repository was staged. -/
theorem Within.commit (hd : d.Within context k) : (d.commit k).2.Within context k := by
  have hspent := hd.connect.spend
  refine ⟨repositories_commit.symm ▸ hd.client, ?_, ?_⟩ <;> unfold Desk.commit
  · split
    · exact hd.quads
    · split
      · exact hspent.quads
      · exact Dataset.graph_of_applyAll hd.quads hd.staged
  · split
    · exact hd.staged
    · split
      · exact hspent.staged
      · have hnone : (((d.connect k).spend.updateClient k
            ({ · with staged := [] })).client k).staged = [] := by
          rw [client_updateClient_self (exist_of_repositories hspent.client)]
        intro change hchange
        have hmem : change ∈ (((d.connect k).spend.updateClient k
          ({ · with staged := [] })).client k).staged := hchange
        rw [hnone] at hmem
        contradiction

theorem Within.query [Engine] {α : Type} (hd : d.Within context k)
    (answerOf : String → Engine.Query → List Quad → Except Fault α) (text : String) :
    (d.query k answerOf text).2.Within context k := by
  unfold Desk.query
  dsimp only
  split
  · exact hd.connect
  · exact hd

theorem client_join : d.join.2.repositories[d.clients.length]? = some Depot.working := by
  simp [join, repositories]

/-- A client that joins where nothing is to be read has staged nothing yet. -/
theorem within_join (hd : d.quads = []) : d.join.2.Within context d.clients.length where
  client := client_join
  quads := by
    intro q hq
    have hnone : q ∈ d.quads := hq
    rw [hd] at hnone
    contradiction
  staged := by simp [join, Desk.client, List.getD_eq_getElem?_getD]

/-- Clearing the context is staged behind all that was staged before it. -/
theorem Within.write_clear [Document.Fetcher] (hd : d.Within context k)
    (hsound : d.IsSound) (hcontext : Iri.isAbsolute context.toList = true) :
    (d.write k (.clear context)).1 = .ok () ∧
      ((d.write k (.clear context)).2.commit k).2.quads = [] := by
  have hchanges : d.changes (.clear context) = .ok ([.clear context], 0) := by
    change (Depot.context context >>= fun graph => Except.ok ([Staged.clear graph], 0)) = _
    rw [Depot.context, if_pos hcontext]
    rfl
  simp only [Desk.write, hchanges, true_and]
  have hclient := client_updateClient_self (d := d)
    (g := fun c => { c with staged := c.staged ++ [.clear context] })
    (exist_of_repositories hd.client)
  have hstaged : (({ d.updateClient k (fun c => { c with staged := c.staged ++ [.clear context] })
      with blanks := d.blanks + 0 } : Desk).client k).staged =
      (d.client k).staged ++ [.clear context] := congrArg Client.staged hclient
  have hsome : (d.client k).staged ++ [Staged.clear context] ≠ [] := by simp
  have hnone : ({ d.updateClient k (fun c => { c with staged := c.staged ++ [.clear context] })
      with blanks := d.blanks + 0 } : Desk).failure? = none := by
    rw [Desk.failure?]
    exact congrArg (fun failures : List (Option String) => failures.head?.join) hsound.1
  rw [Desk.commit, hstaged, if_neg hsome, hnone]
  simp only [Dataset.applyAll_append]
  exact Dataset.quads_clear (Dataset.graph_of_applyAll hd.quads hd.staged)

end Desk

/-! ## Vacant repositories -/

namespace Depot

variable {d : Depot} {r : Nat} {path : String} {place : Files.Place}

/-- The directory that the path of the working repository leads to when it is opened. -/
def workingPlace? (d : Depot) : Option Files.Place :=
  match (d.repository working).path with
  | none => none
  | some path =>
    match d.files.makeDirectories path with
    | .error _ => none
    | .ok files =>
      match files.find path with
      | .ok (place, .directory) => some place
      | _ => none

/-- The working repository is there, and it has no quads. -/
inductive IsVacant (d : Depot) : Prop
  | closed (hexist : working < d.repositories.length)
      (hclosed : (d.repository working).opened = none)
      (hnone : ∀ place, d.workingPlace? = some place →
        ((d.saved.lookup place).getD .empty).quads = [])
  | opened (hopen : d.WorkingOpen) (hnone : d.workingData.quads = [])

/-- The depot with a working repository that was made anew: it is closed, and there is nothing in
its directory. -/
def renewed (d : Depot) : Depot :=
  { d.setOpened working none with
    saved := d.saved.filter fun entry => some entry.1 != d.workingPlace? }

/-- How it ends to open the working repository when it is closed, and what files there are then. -/
def opening (d : Depot) : Except Fault Unit × Files :=
  ((initialize_ working (d.setOpened working none, [])).1,
    (initialize_ working (d.setOpened working none, [])).2.1.files)

theorem workingPlace?_setOpened (r : Nat) (opened : Option Opened) :
    (d.setOpened r opened).workingPlace? = d.workingPlace? := by
  have hfiles : (d.setOpened r opened).files = d.files := rfl
  rw [workingPlace?, path_setOpened, hfiles]
  rfl

/-! ### Opening -/

theorem workingPlace?_eq (hpath : (d.repository working).path = some path) {files : Files}
    (hmake : d.files.makeDirectories path = .ok files)
    (hplace : files.find path = .ok (place, .directory)) : d.workingPlace? = some place := by
  simp only [workingPlace?, hpath, hmake, hplace]

/-- Directories that were made are found again. -/
theorem workingPlace?_of_make (hpath : (d.repository working).path = some path) {files : Files}
    (hmake : d.files.makeDirectories path = .ok files) :
    ({ d with files } : Depot).workingPlace? = d.workingPlace? := by
  have hpath' : (({ d with files } : Depot).repository working).path = some path := hpath
  simp only [workingPlace?, hpath, hpath', hmake, Files.makeDirectories_again hmake]

theorem WorkingOpen.workingPlace?_eq {place : Files.Place} (hd : d.WorkingOpen)
    (hplace : d.workingPlace? = some place) :
    (d.repository working).opened = some (.directory place) := by
  cases hd with
  | memory hpath hopened => simp [workingPlace?, hpath] at hplace
  | directory hpath hopened hfind halone =>
    rw [Depot.workingPlace?_eq hpath (Files.makeDirectories_of_find hfind) hfind] at hplace
    rw [hopened, Option.some.inj hplace]

theorem openDirectory_saved (saved : List (Files.Place × Dataset)) (s : Depot × List Record) :
    openDirectory r path ({ s.1 with saved }, s.2) =
      ((openDirectory r path s).1,
        ({ (openDirectory r path s).2.1 with saved }, (openDirectory r path s).2.2)) := by
  unfold openDirectory
  simp only [Effect.bind_apply, depot_apply]
  cases s.1.files.makeDirectories path with
  | error f => rfl
  | ok files =>
    simp only [Effect.bind_apply, setDepot_apply]
    rcases files.find path with f | ⟨place, node⟩
    · rfl
    · cases node with
      | directory =>
        have hinUse : ({ s.1 with saved } : Depot).isInUse place = s.1.isInUse place := rfl
        simp only [hinUse]
        split <;> rfl
      | _ => rfl

/-- What is saved makes no difference to how a repository is opened. -/
theorem initialize_saved (saved : List (Files.Place × Dataset)) (s : Depot × List Record) :
    initialize_ r ({ s.1 with saved }, s.2) =
      ((initialize_ r s).1, ({ (initialize_ r s).2.1 with saved }, (initialize_ r s).2.2)) := by
  have hsame : ({ s.1 with saved } : Depot).repository r = s.1.repository r := rfl
  unfold initialize_
  rw [Effect.bind_apply, Effect.bind_apply, depot_apply, depot_apply]
  simp only [hsame]
  split
  · rfl
  · cases (s.1.repository r).path with
    | none => rfl
    | some path =>
      dsimp only
      rw [Effect.bind_apply, Effect.bind_apply, openDirectory_saved saved s]
      rcases openDirectory r path s with ⟨f | opened, t⟩ <;> rfl

theorem opening_renewed (d : Depot) : d.renewed.opening = d.opening := by
  have hsame : d.renewed.setOpened working none =
      { d.setOpened working none with saved := d.renewed.saved } := by
    rw [← setOpened_setOpened (d := d) none none]
    rfl
  unfold opening
  rw [hsame, initialize_saved d.renewed.saved (d.setOpened working none, [])]

/-- A repository that is vacant and closed is opened without quads, or it stays vacant. -/
theorem ends_initialize_closed (hexist : working < d.repositories.length)
    (hclosed : (d.repository working).opened = none)
    (hnone : ∀ place, d.workingPlace? = some place →
      ((d.saved.lookup place).getD .empty).quads = []) :
    Effect.EndsIn
      (fun _ t => t.1.WorkingOpen ∧ t.1.workingData.quads = [] ∧ t.1.clients = d.clients ∧
        t.1.blanks = d.blanks ∧ t.1.failures = d.failures ∧ t.1.flushes = d.flushes)
      (fun _ t => t.1.IsVacant ∧ t.1.clients = d.clients ∧ t.1.failures = d.failures ∧
        t.1.flushes = d.flushes)
      (initialize_ working (d, [])) := by
  unfold initialize_
  rw [Effect.bind_apply, depot_apply]
  simp only [hclosed, Option.isSome_none, Bool.false_eq_true, if_false]
  cases hpath : (d.repository working).path with
  | none =>
    have hrepository := repository_setOpened_self hexist (some (.memory .empty))
    have hdata : (d.setOpened working (some (.memory .empty))).workingData = .empty := by
      simp only [workingData, data?, hrepository, Option.getD_some]
    refine .returns ⟨.memory ?_ (by rw [hrepository]), by rw [hdata]; rfl, rfl, rfl, rfl, rfl⟩
    rw [hrepository]
    exact hpath
  | some path =>
    -- a directory may hold data, but those of the working repository have no quads
    have hends := ends_openDirectory working path (d, [])
    dsimp only
    rw [Effect.bind_apply]
    generalize openDirectory working path (d, []) = opened at hends ⊢
    cases hends with
    | returns h =>
      obtain ⟨files, place, hmake, rfl, rfl, hplace, hfree⟩ := h
      have hrepository := repository_setOpened_self (d := { d with files }) hexist
        (some (.directory place))
      refine .returns ⟨.directory ?_ (by rw [hrepository]) hplace ?_, ?_, rfl, rfl, rfl, rfl⟩
      · rw [hrepository]
        exact hpath
      · intro other hother
        rw [repository_setOpened_ne hother]
        exact isInUse_eq_false_iff.mp hfree other
      · simp only [workingData, data?, hrepository, Option.getD_some]
        exact hnone place (workingPlace?_eq hpath hmake hplace)
    | fails h =>
      refine .fails ?_
      rcases h with rfl | ⟨files, hmake, rfl⟩
      · exact ⟨.closed hexist hclosed hnone, rfl, rfl, rfl⟩
      · refine ⟨.closed hexist hclosed ?_, rfl, rfl, rfl⟩
        rw [workingPlace?_of_make hpath hmake]
        exact hnone

/-- What is open would be opened again, with the same files. -/
theorem WorkingOpen.opening_eq (hd : d.WorkingOpen) : d.opening = (.ok (), d.files) := by
  cases hd with
  | memory hpath hopened =>
    have hclosed := opened_setOpened_none (d := d) working
    have hpath' : ((d.setOpened working none).repository working).path = none :=
      (path_setOpened working none).trans hpath
    unfold opening initialize_
    rw [Effect.bind_apply, depot_apply]
    simp only [hclosed, hpath', Option.isSome_none, Bool.false_eq_true, if_false]
    rfl
  | directory hpath hopened hplace halone =>
    obtain ⟨hclosed, hfree⟩ := closed_free halone
    obtain ⟨records, hinitialize⟩ := initialize_directory (s := (d.setOpened working none, []))
      hclosed ((path_setOpened working none).trans hpath) hplace hfree
    rw [opening, hinitialize]
    rfl

/-- A vacant repository is opened without quads, or it stays vacant. -/
theorem ends_initialize (hd : d.IsVacant) :
    Effect.EndsIn
      (fun _ t => d.opening = (.ok (), t.1.files) ∧ t.1.WorkingOpen ∧ t.1.workingData.quads = [] ∧
        t.1.clients = d.clients ∧ t.1.blanks = d.blanks ∧ t.1.failures = d.failures ∧
        t.1.flushes = d.flushes)
      (fun f t => d.opening.1 = .error f ∧ t.1.IsVacant ∧ t.1.clients = d.clients ∧
        t.1.failures = d.failures ∧ t.1.flushes = d.flushes)
      (initialize_ working (d, [])) := by
  cases hd with
  -- what is closed is opened as `opening` says, and what is open need not be opened
  | closed hexist hclosed hnone =>
    have hopening : d.opening = ((initialize_ working (d, [])).1,
        (initialize_ working (d, [])).2.1.files) := by
      rw [opening, setOpened_self hclosed]
    have hends := ends_initialize_closed hexist hclosed hnone
    rw [hopening]
    generalize initialize_ working (d, []) = opened at hends ⊢
    cases hends with
    | returns h => exact .returns ⟨rfl, h⟩
    | fails h => exact .fails ⟨rfl, h⟩
  | opened hopen hnone =>
    rw [initialize_working (s := (d, [])) hopen]
    exact .returns ⟨hopen.opening_eq, hopen, hnone, rfl, rfl, rfl, rfl⟩

/-- What a derivation sees once the working repository was opened without quads. -/
def openingDesk (d : Depot) : Desk := { d.desk with files := d.opening.2, quads := [] }

/-- The working repository is opened for a new client, which has nothing to read. -/
theorem ends_openAsWorking (hd : d.IsVacant) :
    Effect.EndsIn
      (fun k t => d.opening.1 = .ok () ∧ k = d.clients.length ∧ t.1.WorkingOpen ∧
        t.1.desk = d.openingDesk.join.2)
      (fun f t => d.opening.1 = .error f ∧ t.1.IsVacant ∧ t.1.clients = d.clients ∧
        t.1.failures = d.failures ∧ t.1.flushes = d.flushes)
      (openAsWorking working (d, [])) := by
  have hends := ends_initialize hd
  unfold openAsWorking
  rw [Effect.bind_apply]
  generalize initialize_ working (d, []) = opened at hends ⊢
  cases hends with
  | fails h => exact .fails h
  | @returns _ t h =>
    obtain ⟨hopening, hopen, hnone, hclients, hblanks, hfailures, hflushes⟩ := h
    obtain ⟨u, hconnect, hconnected, hdesk⟩ := acts_connectClient hopen
    have hbefore : t.1.desk = d.openingDesk := by
      rw [openingDesk, desk, hopening, hnone, hclients, hblanks, hfailures, hflushes]
      rfl
    rw [hbefore] at hconnect hdesk
    dsimp only
    rw [hconnect]
    exact .returns ⟨by rw [hopening], rfl, hconnected, hdesk⟩

/-- The same of the question by which a derivation has the working repository opened. -/
theorem ends_openWorking [Engine] (hd : d.IsVacant) :
    Effect.EndsIn
      (fun k e => d.opening.1 = .ok () ∧ k = ⟨d.clients.length⟩ ∧ e.WorkingOpen ∧
        e.desk = d.openingDesk.join.2)
      (fun f e => d.opening.1 = .error f ∧ e.IsVacant ∧ e.clients = d.clients ∧
        e.failures = d.failures ∧ e.flushes = d.flushes)
      ((Backend.openWorking d).result, (Backend.openWorking d).state) := by
  have hends := ends_openAsWorking hd
  change Effect.EndsIn _ _ (((ClientId.mk <$> openAsWorking working : Work ClientId) (d, [])).1,
    ((ClientId.mk <$> openAsWorking working : Work ClientId) (d, [])).2.1)
  rw [Effect.map_apply]
  generalize openAsWorking working (d, []) = opened at hends ⊢
  cases hends with
  | returns h => exact .returns ⟨h.1, congrArg ClientId.mk h.2.1, h.2.2⟩
  | fails h => exact .fails h

/-- As far as a vacant repository can be counted, it has no quads. -/
theorem size_of_isVacant (hd : d.IsVacant) {n : Nat}
    (hsize : ((size working).respond d).result = .ok n) : n = 0 := by
  have hends := ends_initialize hd
  have happly : ((size working).respond d).result =
      (size working (d, [])).1 := rfl
  rw [happly] at hsize
  unfold size data at hsize
  rw [Effect.bind_apply, Effect.bind_apply] at hsize
  generalize initialize_ working (d, []) = opened at hends hsize
  cases hends with
  | fails h => contradiction
  | @returns _ t h =>
    obtain ⟨-, -, hnone, -⟩ := h
    obtain rfl : t.1.workingData.size = n := Except.ok.inj hsize
    rw [Dataset.size, hnone]
    rfl

/-! ### Closing -/

/-- A repository that is closed without quads is vacant. -/
theorem WorkingOpen.isVacant_closed (hd : d.WorkingOpen) (hnone : d.workingData.quads = []) :
    (d.setOpened working none).IsVacant := by
  obtain ⟨opened, hopened⟩ := Option.isSome_iff_exists.mp hd.isOpen
  have hexist := lt_of_opened hopened
  refine .closed (by simpa [setOpened] using hexist) (opened_setOpened_none working)
    fun place hplace => ?_
  rw [workingPlace?_setOpened] at hplace
  have hdirectory := hd.workingPlace?_eq hplace
  simp only [workingData, data?, hdirectory, Option.getD_some] at hnone
  exact hnone

theorem IsVacant.exist (hd : d.IsVacant) : working < d.repositories.length := by
  cases hd with
  | closed hexist hclosed hnone => exact hexist
  | opened hopen hnone =>
    obtain ⟨opened, hopened⟩ := Option.isSome_iff_exists.mp hopen.isOpen
    exact lt_of_opened hopened

theorem IsVacant.renewed (hd : d.IsVacant) : d.renewed.IsVacant := by
  refine .closed (by simpa [Depot.renewed, setOpened] using hd.exist)
    (opened_setOpened_none (d := d) working) fun place hplace => ?_
  have hsame : d.renewed.workingPlace? = d.workingPlace? := workingPlace?_setOpened working none
  rw [hsame] at hplace
  have hlookup : d.renewed.saved.lookup place = none := by
    rw [Depot.renewed, hplace, List.lookup_eq_none_iff]
    intro entry hentry
    obtain ⟨-, hother⟩ := List.mem_filter.mp hentry
    rw [bne_iff_ne] at hother ⊢
    exact fun heq => hother (congrArg some heq.symm)
  rw [hlookup]
  rfl

end Depot

end GraphCommit
