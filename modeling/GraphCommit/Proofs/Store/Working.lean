import GraphCommit.Proofs.Ensures
import GraphCommit.Proofs.Store.Depot

/-!
# Work on other repositories

Whatever a client of another repository does, the main repository goes on serving, its committed
data stay as they are, and so do all other clients (`StaysApart`).  This holds of the questions that
a derivation puts to the working repository, from opening it to shutting it down.
-/

namespace GraphCommit.Depot

open Depot.Work

variable {d e : Depot} {k r : Nat} {own : Nat → Prop} {α β : Type} {s t : Depot × List Record}

/-! ## Changes of another repository -/

theorem apart_setOpened (hd : d.Serving) (hr : r ≠ main) {opened : Option Opened}
    (hfree : ∀ place, opened = some (.directory place) →
      (d.repository main).opened ≠ some (.directory place)) :
    Apart own d (d.setOpened r opened) where
  serving := by
    refine hd.of_same (repository_setOpened_ne hr.symm opened) (.refl _) ?_
    intro other place hother hmain hopened
    by_cases heq : other = r
    · subst heq
      rcases opened_setOpened (d := d) other opened with h | h
      · rw [h] at hopened
        exact hfree place hopened hmain
      · rw [h] at hopened
        contradiction
    · rw [repository_setOpened_ne heq] at hopened
      exact hd.alone hmain hother hopened
  flushes := List.suffix_rfl
  clients := Nat.le_refl _
  repository := fun _ _ => rfl
  others := fun _ _ _ => rfl
  committed := committed_of_same (repository_setOpened_ne hr.symm opened) fun _ _ => rfl

theorem apart_setData (hd : d.Serving) (hr : r ≠ main) (data : Dataset) :
    Apart own d (d.setData r data) := by
  unfold setData
  split
  · exact .refl hd
  · exact apart_setOpened hd hr (by simp)
  · next place hopened =>
    refine ⟨⟨hd.of_same rfl (.refl _) fun _ _ hother h => hd.alone h hother, List.suffix_rfl,
      Nat.le_refl _, fun _ _ => rfl, fun _ _ _ => rfl⟩,
      committed_of_same rfl fun used hmain => ?_⟩
    have hne : used ≠ place := by
      rintro rfl
      exact hd.alone hmain hr hopened
    change ((place, data) :: d.saved.filter _).lookup used = _
    rw [lookup_replace, if_neg (by simpa using hne)]

theorem apart_files (hd : d.Serving) {files : Files} (hfiles : Files.Extends d.files files) :
    Apart own d { d with files } where
  serving := hd.of_same rfl hfiles fun _ _ hother h => hd.alone h hother
  flushes := List.suffix_rfl
  clients := Nat.le_refl _
  repository := fun _ _ => rfl
  others := fun _ _ _ => rfl
  committed := rfl

/-- A client of another repository is there, and stays one. -/
theorem Leaves.repository_ne (hleaves : Leaves own d e) (hk : (d.client k).repository ≠ main) :
    (e.client k).repository ≠ main := by
  have hlt : k < d.clients.length := by
    by_contra hge
    refine hk ?_
    rw [client, List.getD_eq_getElem?_getD, List.getElem?_eq_none (Nat.le_of_not_lt hge)]
    rfl
  rw [hleaves.repository k hlt]
  exact hk

/-! ## Work that stays apart -/

/-- Work that, begun in a given state, leaves the committed data and the clients of others alone. -/
def StaysApart (own : Nat → Prop) (work : Work α) (s : Depot × List Record) : Prop :=
  s.1.Serving → Apart own s.1 (work s).2.1

theorem staysApart_of_eq {work : Work α} (hsame : (work s).2.1 = s.1) : StaysApart own work s := by
  intro hs
  rw [hsame]
  exact .refl hs

theorem StaysApart.bind {work : Work α} {next : α → Work β} (hwork : StaysApart own work s)
    (hnext : ∀ a t, work s = (.ok a, t) → Apart own s.1 t.1 → StaysApart own (next a) t) :
    StaysApart own (work >>= next) s := by
  intro hs
  have hfirst := hwork hs
  rw [Effect.bind_apply]
  rcases h : work s with ⟨fault | a, t⟩ <;> rw [h] at hfirst
  · exact hfirst
  · exact hfirst.trans (hnext a t h hfirst hfirst.serving)

theorem StaysApart.depot {next : Depot → Work β} (hnext : StaysApart own (next s.1) s) :
    StaysApart own (Work.depot >>= next) s := hnext

theorem StaysApart.noted {next : Unit → Work β} {level : Level} {message : String}
    (hnext : ∀ records, StaysApart own (next ()) (s.1, records)) :
    StaysApart own (Work.note level message >>= next) s :=
  fun hs => hnext (s.2 ++ [(⟨level, Record.stores, message⟩ : Record)]) hs

theorem StaysApart.relabel {work : Work α} (g : Fault → Fault) (hwork : StaysApart own work s) :
    StaysApart own (work.relabel g) s := hwork

theorem staysApart_modifyDepot {g : Depot → Depot} (hg : s.1.Serving → Apart own s.1 (g s.1)) :
    StaysApart own (modifyDepot g) s := hg

theorem staysApart_transact (fault : String → Fault) : StaysApart own (transact fault) s := by
  intro hs
  rw [transact_apply]
  exact apart_spend own hs

theorem staysApart_flushOut (fault : String → Fault) : StaysApart own (flushOut fault) s := by
  intro hs
  rw [flushOut_apply]
  exact apart_spendFlush own hs

/-- A directory is opened where its path leads to, and only when it is in nobody's use.  Also if it
is not opened, directories may have been made. -/
theorem ends_openDirectory (r : Nat) (path : String) (s : Depot × List Record) :
    Effect.EndsIn
      (fun opened t => ∃ files place, s.1.files.makeDirectories path = .ok files ∧
        t = ({ s.1 with files }, s.2) ∧ opened = .directory place ∧
        files.find path = .ok (place, .directory) ∧ s.1.isInUse place = false)
      (fun _ t => t = s ∨ ∃ files, s.1.files.makeDirectories path = .ok files ∧
        t = ({ s.1 with files }, s.2))
      (openDirectory r path s) := by
  unfold openDirectory
  rw [Effect.bind_apply, depot_apply]
  dsimp only
  cases s.1.files.makeDirectories path with
  | error fault => exact .fails (Or.inl rfl)
  | ok files =>
    dsimp only
    rw [Effect.bind_apply, setDepot_apply]
    dsimp only
    rcases hfind : files.find path with fault | ⟨place, node⟩
    · exact .fails (Or.inr ⟨files, rfl, rfl⟩)
    · cases node with
      | directory =>
        dsimp only
        split
        · exact .fails (Or.inr ⟨files, rfl, rfl⟩)
        · next hfree =>
          exact .returns ⟨files, place, rfl, rfl, rfl, hfind, (Bool.not_eq_true _).mp hfree⟩
      | _ => exact .fails (Or.inr ⟨files, rfl, rfl⟩)

theorem openDirectory_eq_ok {path : String} {opened : Opened}
    (hopen : openDirectory r path s = (.ok opened, t)) :
    ∃ files place, t = ({ s.1 with files }, s.2) ∧ opened = .directory place ∧
      files.find path = .ok (place, .directory) ∧ s.1.isInUse place = false := by
  have hends := ends_openDirectory r path s
  rw [hopen] at hends
  cases hends with
  | returns h =>
    obtain ⟨files, place, -, hrest⟩ := h
    exact ⟨files, place, hrest⟩

theorem staysApart_openDirectory (r : Nat) (path : String) :
    StaysApart own (openDirectory r path) s := by
  unfold openDirectory
  refine .depot ?_
  dsimp only
  split
  · exact staysApart_of_eq rfl
  · next files hfiles =>
    refine .bind (fun hs => apart_files hs (Files.makeDirectories_extends hfiles)) ?_
    intro _ t _ _
    split
    · split <;> exact staysApart_of_eq rfl
    · exact staysApart_of_eq rfl

theorem staysApart_opening (hr : r ≠ main) : StaysApart own (initialize_ r) s := by
  unfold initialize_
  refine .depot ?_
  dsimp only
  split
  · exact staysApart_of_eq rfl
  · split
    · next path hpath =>
      refine .bind (staysApart_openDirectory r path) fun opened t hopen _ => ?_
      refine .noted fun records => staysApart_modifyDepot fun hs => apart_setOpened hs hr ?_
      obtain ⟨files, place, rfl, rfl, -, hfree⟩ := openDirectory_eq_ok hopen
      intro other hother
      obtain rfl : place = other := by simpa using hother
      exact isInUse_eq_false_iff.mp hfree main
    · refine .bind (staysApart_of_eq rfl) fun opened t hpure _ => ?_
      refine .noted fun records => staysApart_modifyDepot fun hs => apart_setOpened hs hr ?_
      obtain ⟨hopened, -⟩ := Prod.mk.inj hpure
      obtain rfl := Except.ok.inj hopened
      simp

theorem staysApart_shutDown (hr : r ≠ main) : StaysApart own (shutDown r) s := by
  unfold shutDown
  refine .depot ?_
  dsimp only
  split
  · refine .bind (staysApart_modifyDepot fun hs => apart_setOpened hs hr (by simp)) ?_
    intro _ t _ _
    split
    · exact .bind (staysApart_flushOut _) fun _ _ _ _ => staysApart_of_eq rfl
    · exact staysApart_of_eq rfl
  · exact staysApart_of_eq rfl

theorem staysApart_data (hr : r ≠ main) : StaysApart own (data r) s :=
  .bind (staysApart_opening hr) fun _ _ _ _ => staysApart_of_eq rfl

/-! ## Clients of other repositories -/

theorem staysApart_updateClient (hown : own k) {g : Client → Client}
    (hg : ∀ c, (g c).repository = c.repository) :
    StaysApart own (modifyDepot (·.updateClient k g)) s :=
  staysApart_modifyDepot fun hs => apart_updateClient hs hown hg

theorem staysApart_connect (hown : own k) (hk : (s.1.client k).repository ≠ main) :
    StaysApart own (connect k) s := by
  unfold connect
  refine .depot ?_
  exact .bind (staysApart_opening hk) fun _ _ _ _ => staysApart_updateClient hown fun _ => rfl

theorem staysApart_clientData (hown : own k) (hk : (s.1.client k).repository ≠ main) :
    StaysApart own (clientData k) s := by
  unfold clientData
  refine .depot ?_
  dsimp only
  split
  · exact .bind (staysApart_connect hown hk) fun _ _ _ _ => staysApart_data hk
  · exact staysApart_data hk

theorem staysApart_rollback (hown : own k) : StaysApart own (rollback k) s :=
  staysApart_updateClient hown fun _ => rfl

theorem staysApart_disconnect (hown : own k) : StaysApart own (disconnect k) s := by
  unfold disconnect
  refine .depot ?_
  dsimp only
  split
  · exact .bind (staysApart_of_eq rfl) fun _ _ _ _ => staysApart_updateClient hown fun _ => rfl
  · exact staysApart_updateClient hown fun _ => rfl

theorem staysApart_commit (hown : own k) (hk : (s.1.client k).repository ≠ main) :
    StaysApart own (commit k) s := by
  unfold commit
  refine .depot ?_
  dsimp only
  split
  · exact staysApart_of_eq rfl
  · refine .bind (.relabel _ (staysApart_clientData hown hk)) fun before t _ _ => ?_
    refine .bind (staysApart_transact _) fun _ _ _ _ => ?_
    refine .bind (staysApart_modifyDepot fun hs => apart_setData hs hk _) fun _ _ _ _ => ?_
    exact .bind (staysApart_of_eq rfl) fun _ _ _ _ => .noted fun _ => staysApart_rollback hown

theorem staysApart_write [Document.Fetcher] (hown : own k) (w : Write) :
    StaysApart own (write k w) s := by
  have hstage : ∀ (t : Depot × List Record) (staged : List Staged) (blanks : Nat),
      StaysApart own (modifyDepot fun d =>
        { d.updateClient k (fun c => { c with staged := c.staged ++ staged }) with
          blanks := d.blanks + blanks }) t :=
    fun t staged blanks => staysApart_modifyDepot fun hs =>
      apart_stage (g := fun c => { c with staged := c.staged ++ staged }) hs hown (fun _ => rfl) _
  unfold write
  refine .depot (.bind (staysApart_of_eq rfl) ?_)
  rintro ⟨staged, blanks⟩ t - -
  cases w with
  | addData url base contextName => exact .noted fun records => hstage _ staged blanks
  | _ => exact hstage _ staged blanks

theorem staysApart_query [Engine] (hown : own k) (hk : (s.1.client k).repository ≠ main)
    (answerOf : String → Engine.Query → List Quad → Except Fault α) (text : String) :
    StaysApart own (query k answerOf text) s := by
  unfold query
  refine .bind (staysApart_of_eq rfl) fun q t _ hread => ?_
  exact .bind (staysApart_clientData hown (hread.repository_ne hk)) fun _ _ _ _ =>
    staysApart_of_eq rfl

/-! ## The working repository -/

/-- A client that was not there before, of a repository other than the main one. -/
def IsNewApart (d e : Depot) (k : Nat) : Prop :=
  d.clients.length ≤ k ∧ (e.client k).repository ≠ main

/-- Work that answers with a new client of another repository. -/
def AddsApart (own : Nat → Prop) (work : Work Nat) (s : Depot × List Record) : Prop :=
  s.1.Serving → Apart own s.1 (work s).2.1 ∧
    ∀ k, (work s).1 = .ok k → IsNewApart s.1 (work s).2.1 k

theorem AddsApart.after {work : Work α} {next : α → Work Nat} (hwork : StaysApart own work s)
    (hnext : ∀ a t, AddsApart own (next a) t) : AddsApart own (work >>= next) s := by
  intro hs
  have hfirst := hwork hs
  rw [Effect.bind_apply]
  rcases h : work s with ⟨fault | a, t⟩ <;> rw [h] at hfirst
  · exact ⟨hfirst, fun k hk => by contradiction⟩
  · obtain ⟨hsecond, hnew⟩ := hnext a t hfirst.serving
    refine ⟨hfirst.trans hsecond, fun k hk => ?_⟩
    exact ⟨Nat.le_trans hfirst.clients (hnew k hk).1, (hnew k hk).2⟩

theorem addsApart_newClient (hr : r ≠ main) :
    AddsApart own (do let k ← newClient r; connect k; return k) s := by
  intro hs
  have hadd := apart_addClient own hs r
  have hother : ((s.1.addClient r).2.client s.1.clients.length).repository ≠ main := by
    rw [client_addClient]
    exact hr
  have hconnect : Apart (· = s.1.clients.length) (s.1.addClient r).2
      (connect s.1.clients.length ((s.1.addClient r).2, s.2)).2.1 :=
    staysApart_connect (s := ((s.1.addClient r).2, s.2)) (by rfl) hother hadd.serving
  generalize hrun : connect s.1.clients.length ((s.1.addClient r).2, s.2) = done at hconnect
  have happly : (do let k ← newClient r; connect k; return k : Work Nat) s =
      (connect s.1.clients.length >>= fun _ => pure s.1.clients.length : Work Nat)
        ((s.1.addClient r).2, s.2) := rfl
  rw [happly, Effect.bind_apply, hrun]
  -- the client is new, so connecting it has nothing to do with those that were there
  have hboth : Apart own s.1 done.2.1 :=
    hadd.then hconnect fun j hj heq => absurd heq (Nat.ne_of_lt hj)
  rcases done with ⟨fault | _, t⟩
  · exact ⟨hboth, fun k hk => by contradiction⟩
  · refine ⟨hboth, fun k hk => ?_⟩
    obtain rfl := Except.ok.inj hk
    exact ⟨Nat.le_refl _, hconnect.repository_ne hother⟩

theorem addsApart_openAsWorking (hr : r ≠ main) : AddsApart own (openAsWorking r) s := by
  unfold openAsWorking connectClient
  refine .after (staysApart_opening hr) fun _ t => ?_
  exact .after (staysApart_opening hr) fun _ u => addsApart_newClient hr

end GraphCommit.Depot
