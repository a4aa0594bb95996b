import GraphCommit.Proofs.Recorded
import GraphCommit.Proofs.Store.Reader
import GraphCommit.Query.Engine
import Mathlib.Data.List.Induction
import Mathlib.Data.Multiset.Basic

/-!
# What a rollback undoes

A client stages its writes, and to roll back, to disconnect or to be invalidated is to drop them.
So nobody ever finds them in the repository.  An update request is different: it acts on the dataset
at once, everybody finds what it has done, and a rollback has nothing to drop.

What is found in a repository after any calls of a client that does not commit is therefore what was
found before, changed by the update requests alone (`Discards`).  A rollback undoes all calls, and
nobody can observe one of them, exactly if each update request among them leaves the quads as they
are.  This is so whatever the language of the requests is, since it holds for any engine that reads
them and carries them out, and whichever of them fail.
-/

namespace GraphCommit

/-- To end the work of a client without a commit. -/
inductive Action.IsEnding : Action → Prop
  | rollback : IsEnding .rollback
  | disconnect : IsEnding .disconnect
  | invalidate : IsEnding .invalidate

namespace Depot

open Depot.Work Effect

variable {d e f : Depot} {k r : Nat} {s : Depot × List Record} {α : Type}
  {data later : Except Fault Dataset}

/-! ## Changes and what is found after them -/

/-- The client exists, and so does its repository. -/
structure IsClient (d : Depot) (k r : Nat) : Prop where
  exist : k < d.clients.length
  repository : (d.client k).repository = r
  known : r < d.repositories.length

/-- A change that leaves every client with its repository, and what readers of one repository find
after it. -/
structure Shows (r : Nat) (d e : Depot) (data : Except Fault Dataset) : Prop where
  clients : e.clients.length = d.clients.length
  owner : ∀ k, (e.client k).repository = (d.client k).repository
  repositories : e.repositories.length = d.repositories.length
  found : e.found r = data

theorem Shows.refl (r : Nat) (d : Depot) : Shows r d d (d.found r) := ⟨rfl, fun _ => rfl, rfl, rfl⟩

theorem Shows.trans (hfirst : Shows r d e data) (hsecond : Shows r e f later) :
    Shows r d f later where
  clients := hsecond.clients.trans hfirst.clients
  owner := fun k => (hsecond.owner k).trans (hfirst.owner k)
  repositories := hsecond.repositories.trans hfirst.repositories
  found := hsecond.found

theorem Shows.isClient {other : Nat} (hshows : Shows r d e data) (hk : d.IsClient k other) :
    e.IsClient k other where
  exist := hshows.clients ▸ hk.exist
  repository := (hshows.owner k).trans hk.repository
  known := hshows.repositories ▸ hk.known

theorem owner_updateClient {g : Client → Client} (hg : ∀ c, (g c).repository = c.repository)
    (j : Nat) : ((d.updateClient k g).client j).repository = (d.client j).repository := by
  by_cases hjk : j = k
  · subst hjk
    by_cases hj : j < d.clients.length
    · rw [client_updateClient_self hj, hg]
    · rw [updateClient, List.modify_eq_self (Nat.le_of_not_lt hj)]
  · rw [client_updateClient_ne hjk]

/-- Nobody finds what a client has staged, or whether it is connected. -/
theorem shows_stage (hr : r < d.repositories.length) {g : Client → Client}
    (hg : ∀ c, (g c).repository = c.repository) (blanks : Nat) :
    Shows r d { d with clients := d.clients.modify k g, blanks } (d.found r) where
  clients := List.length_modify _ _ _
  owner := owner_updateClient hg
  repositories := rfl
  found := found_of_clients hr _ _ _ _

/-- Nobody finds what transactions have met with. -/
theorem shows_spend (hr : r < d.repositories.length) : Shows r d d.spend (d.found r) where
  clients := rfl
  owner := fun _ => rfl
  repositories := rfl
  found := found_of_clients hr _ _ _ _

theorem shows_afterOpening (hr : r < d.repositories.length) :
    Shows r d (d.afterOpening r) (d.found r) := by
  have hclients : (d.afterOpening r).clients = d.clients := by
    unfold afterOpening
    split <;> rfl
  constructor
  · rw [hclients]
  · intro k
    rw [client, hclients]
    rfl
  · exact length_afterOpening d r
  · exact found_afterOpening hr

theorem shows_setData (hopen : (d.repository r).opened.isSome = true) (data : Dataset)
    (blanks : Nat) : Shows r d { d.setData r data with blanks } (.ok data) := by
  have hlength : (d.setData r data).repositories.length = d.repositories.length := by
    unfold setData
    split
    · rfl
    · exact List.length_modify _ _ _
    · rfl
  constructor
  · exact congrArg List.length (clients_setData r data)
  · intro k
    show ((d.setData r data).client k).repository = (d.client k).repository
    rw [client, clients_setData]
    rfl
  · exact hlength
  · obtain ⟨opened, hopened⟩ := Option.isSome_iff_exists.mp hopen
    have hr := lt_of_opened hopened
    have hblanks := found_of_clients (hlength.symm ▸ hr) (d.setData r data).clients blanks
      (d.setData r data).failures (d.setData r data).flushes
    exact hblanks.trans (found_setData hopen data)

/-- Where somebody finds data, the repository is open from then on. -/
theorem isOpen_afterOpening (hr : r < d.repositories.length) {data : Dataset}
    (hfound : d.found r = .ok data) : ((d.afterOpening r).repository r).opened.isSome = true := by
  rw [found_eq hr] at hfound
  unfold afterOpening
  rcases hopening : d.openingOf r with ⟨fault | opened, files⟩
  · rw [hopening] at hfound
    contradiction
  · show ((setOpened { d with files } r (some opened)).repository r).opened.isSome = true
    rw [repository_setOpened_self (d := { d with files }) hr]
    rfl

theorem map_id (data : Except Fault Dataset) : (data.map fun data => data) = data := by
  cases data <;> rfl

/-! ## What a client does -/

/-- A client finds what every reader finds, and reading changes nothing that can be found. -/
theorem clientData_found (hk : s.1.IsClient k r) :
    ∃ t, clientData k s = (s.1.found r, t) ∧ Shows r s.1 t.1 (s.1.found r) ∧
      t.1.blanks = s.1.blanks ∧ t.1.failures = s.1.failures ∧
      ∀ data, s.1.found r = .ok data → (t.1.repository r).opened.isSome = true := by
  obtain ⟨g, records, hg, hclient⟩ := clientData_apply k s
  obtain ⟨records', hdata⟩ := data_apply hk.known
  rw [hk.repository, hdata] at hclient
  refine ⟨((s.1.afterOpening r).updateClient k g, records), ?_, ?_, ?_, ?_, ?_⟩
  · rw [hclient, found_eq hk.known]
  · have hopen := shows_afterOpening hk.known
    have hstage : Shows r (s.1.afterOpening r) ((s.1.afterOpening r).updateClient k g)
        ((s.1.afterOpening r).found r) :=
      shows_stage (hopen.repositories ▸ hk.known) (fun c => (hg c).1) (s.1.afterOpening r).blanks
    rw [hopen.found] at hstage
    exact hopen.trans hstage
  · show (s.1.afterOpening r).blanks = s.1.blanks
    unfold afterOpening
    split <;> rfl
  · show (s.1.afterOpening r).failures = s.1.failures
    unfold afterOpening
    split <;> rfl
  · intro data hfound
    exact isOpen_afterOpening hk.known hfound

/-- Work returns a result, and this is what readers of a repository find after it. -/
def Leads (r : Nat) (work : Work α) (s : Depot × List Record) (result : Except Fault α)
    (data : Except Fault Dataset) : Prop :=
  ∃ t, work s = (result, t) ∧ Shows r s.1 t.1 data

theorem Leads.after {work : Work α} {result : Except Fault α}
    (hleads : Leads r work (d, []) result data) : Shows r d (work.respond d).state data := by
  obtain ⟨t, hwork, hshows⟩ := hleads
  show Shows r d (work (d, [])).2.1 data
  rw [hwork]
  exact hshows

theorem Leads.result {work : Work α} {result : Except Fault α}
    (hleads : Leads r work (d, []) result data) : (work.respond d).result = result := by
  obtain ⟨t, hwork, -⟩ := hleads
  exact congrArg Prod.fst hwork

section

variable [Engine]

/-- The answer to a query, by what readers find.  A query that cannot be read is refused before
anything is looked for. -/
def answer (d : Depot) (r : Nat)
    (answerOf : String → Engine.Query → List Quad → Except Fault α) (text : String) :
    Except Fault α :=
  query? text >>= fun q => d.found r >>= fun data => answerOf text q data.quads

theorem leads_query (hk : s.1.IsClient k r)
    (answerOf : String → Engine.Query → List Quad → Except Fault α) (text : String) :
    Leads r (query k answerOf text) s (s.1.answer r answerOf text) (s.1.found r) := by
  unfold Leads query answer
  rw [bind_apply, lift_apply]
  cases query? text with
  | error fault => exact ⟨s, rfl, .refl r s.1⟩
  | ok q =>
    obtain ⟨t, hdata, hshows, -⟩ := clientData_found hk
    simp only [bind_apply, hdata]
    refine ⟨t, ?_, hshows⟩
    cases s.1.found r <;> rfl

/-- A write is staged or refused. -/
theorem leads_write (hk : s.1.IsClient k r) (w : Write) :
    ∃ result, Leads r (write k w) s result (s.1.found r) := by
  unfold Leads write
  rw [bind_apply, depot_apply]
  simp only [bind_apply, lift_apply]
  rcases s.1.changes w with fault | ⟨staged, blanks⟩
  · exact ⟨.error fault, s, rfl, .refl r s.1⟩
  · have hstage := shows_stage (k := k) (g := fun c => { c with staged := c.staged ++ staged })
      hk.known (fun _ => rfl) (s.1.blanks + blanks)
    cases w <;> exact ⟨.ok (), _, rfl, hstage⟩

/-- What an update request makes of a dataset.  One that cannot be read or carried out does
nothing, and neither does one whose transaction fails. -/
def revised (d : Depot) (text : String) (data : Dataset) : Dataset :=
  match Engine.readRequest? text with
  | none => data
  | some request =>
    match Engine.carryOut request d.blanks data, d.failure? with
    | .ok (after, _), none => after
    | _, _ => data

/-- An update request is carried out on what is there, or changes nothing. -/
theorem leads_update (hk : s.1.IsClient k r) (text : String) :
    ∃ result, Leads r (update k text) s result ((s.1.found r).map (s.1.revised text)) := by
  unfold Leads update revised
  cases Engine.readRequest? text with
  | none =>
    refine ⟨_, s, rfl, ?_⟩
    dsimp only
    rw [map_id]
    exact .refl r s.1
  | some request =>
    obtain ⟨t, hdata, hshows, hblanks, hfailures, hopen⟩ := clientData_found hk
    have hmeets : t.1.failure? = s.1.failure? := congrArg (fun found => found.head?.join) hfailures
    simp only [bind_apply, hdata, depot_apply]
    cases hfound : s.1.found r with
    | error fault =>
      rw [hfound] at hshows
      exact ⟨.error fault, t, rfl, hshows⟩
    | ok before =>
      rw [hfound] at hshows
      dsimp only [Except.map]
      rw [hblanks]
      cases Engine.carryOut request s.1.blanks before with
      | error reason => exact ⟨.error (.connection reason), t, rfl, hshows⟩
      | ok carried =>
        obtain ⟨after, blanks⟩ := carried
        -- from here on the transaction counts, whether it succeeds or not
        have hspend := shows_spend (hshows.isClient hk).known
        rw [hshows.found] at hspend
        have hspent := hshows.trans hspend
        dsimp only
        rw [bind_apply, transact_apply, hmeets]
        cases s.1.failure? with
        | some reason => exact ⟨.error (.connection reason), (t.1.spend, t.2), rfl, hspent⟩
        | none =>
          have howner : (t.1.spend.client k).repository = r := (hspent.isClient hk).repository
          have hopened : (t.1.spend.repository r).opened.isSome = true := hopen before hfound
          refine ⟨.ok (), ({ t.1.spend.setData r after with blanks := t.1.spend.blanks + blanks },
            t.2), ?_, hspent.trans (shows_setData hopened after _)⟩
          dsimp only
          rw [modifyDepot_apply, howner]

end

/-- The staged writes are dropped, and nothing happens that could be found. -/
theorem leads_ending [Engine] {a : Action} (ha : a.IsEnding) (hk : s.1.IsClient k r) :
    ∃ t, act k a s = (.ok (), t) ∧ Shows r s.1 t.1 (s.1.found r) ∧ (t.1.client k).staged = [] := by
  have hdrop : ∀ (g : Client → Client) (records : List Record),
      (∀ c, (g c).repository = c.repository ∧ (g c).staged = []) →
      act k a s = (.ok (), (s.1.updateClient k g, records)) →
      ∃ t, act k a s = (.ok (), t) ∧ Shows r s.1 t.1 (s.1.found r) ∧
        (t.1.client k).staged = [] := by
    intro g records hg hact
    refine ⟨_, hact, shows_stage hk.known (fun c => (hg c).1) s.1.blanks, ?_⟩
    rw [client_updateClient_self hk.exist]
    exact (hg _).2
  cases ha with
  | rollback => exact hdrop ({ · with staged := [] }) s.2 (fun _ => ⟨rfl, rfl⟩) rfl
  | disconnect =>
    obtain ⟨records, hact⟩ := disconnect_apply k s
    exact hdrop ({ · with staged := [], connected := false }) records (fun _ => ⟨rfl, rfl⟩) hact
  | invalidate =>
    obtain ⟨records, hact⟩ := invalidate_apply k s
    exact hdrop ({ · with staged := [], connected := false }) records (fun _ => ⟨rfl, rfl⟩) hact

/-! ## Calls -/

/-- The calls in question: the writes and the update requests of one client, and queries of any
client of its repository. -/
inductive IsWork (d : Depot) (k : ClientId) (r : Nat) : Question → Prop
  | write (w : Write) : IsWork d k r (.act k (.write w))
  | update (text : String) : IsWork d k r (.act k (.update text))
  | select (j : ClientId) (hj : d.IsClient j.number r) (text : String) :
    IsWork d k r (.select j text)
  | ask (j : ClientId) (hj : d.IsClient j.number r) (text : String) :
    IsWork d k r (.ask j text)

section

variable [Engine]

/-- What a call makes of the data that are found. -/
def changedBy (d : Depot) : Question → Dataset → Dataset
  | .act _ (.update text), data => d.revised text data
  | _, data => data

/-- The depot after calls, one after another. -/
def afterAll (d : Depot) (calls : List Question) : Depot := calls.foldl (fun d q => q.after d) d

/-- What calls make of the data that are found. -/
def updated (d : Depot) : List Question → Dataset → Dataset
  | [], data => data
  | q :: rest, data => (q.after d).updated rest (d.changedBy q data)

variable {k : ClientId} {calls : List Question}

omit [Engine] in
theorem IsWork.of_shows {q : Question} (hshows : Shows r d e data) (hq : IsWork d k r q) :
    IsWork e k r q := by
  cases hq with
  | write w => exact .write w
  | update text => exact .update text
  | select j hj text => exact .select j (hshows.isClient hj) text
  | ask j hj text => exact .ask j (hshows.isClient hj) text

/-- Of all these calls, only an update request is ever found. -/
theorem shows_after {q : Question} (hk : d.IsClient k.number r) (hq : IsWork d k r q) :
    Shows r d (q.after d) ((d.found r).map (d.changedBy q)) := by
  cases hq with
  | write w =>
    obtain ⟨result, hleads⟩ := leads_write (s := (d, [])) hk w
    show Shows r d _ ((d.found r).map fun data => data)
    rw [map_id]
    exact hleads.after
  | update text =>
    obtain ⟨result, hleads⟩ := leads_update (s := (d, [])) hk text
    exact hleads.after
  | select j hj text =>
    show Shows r d _ ((d.found r).map fun data => data)
    rw [map_id]
    exact (leads_query (s := (d, [])) hj rowsOf text).after
  | ask j hj text =>
    show Shows r d _ ((d.found r).map fun data => data)
    rw [map_id]
    exact (leads_query (s := (d, [])) hj verdictOf text).after

theorem shows_afterAll (hk : d.IsClient k.number r) (hcalls : ∀ q ∈ calls, IsWork d k r q) :
    Shows r d (d.afterAll calls) ((d.found r).map (d.updated calls)) := by
  induction calls generalizing d with
  | nil =>
    show Shows r d d ((d.found r).map fun data => data)
    rw [map_id]
    exact .refl r d
  | cons q rest ih =>
    have hstep := shows_after hk (hcalls q List.mem_cons_self)
    have hrest := ih (hstep.isClient hk) fun p hp =>
      (hcalls p (List.mem_cons_of_mem q hp)).of_shows hstep
    have hboth : ((q.after d).found r).map ((q.after d).updated rest) =
        (d.found r).map (d.updated (q :: rest)) := by
      rw [hstep.found]
      cases d.found r <;> rfl
    rw [hboth] at hrest
    exact hstep.trans hrest

/-! ## What is undone -/

/-- The quads that are found, in no order. -/
def quadsFound (d : Depot) (r : Nat) : Except Fault (Multiset Quad) :=
  (d.found r).map fun data => data.quads

/-- After the calls and a rollback the quads are what they were, and at no time in between has
another client of the repository found anything else. -/
structure Undone (d : Depot) (k : ClientId) (r : Nat) (calls : List Question) : Prop where
  /-- To roll back, to disconnect or to be invalidated leaves the quads as they were before all
  calls. -/
  restored : ∀ a : Action, a.IsEnding →
    ((Question.act k a).after (d.afterAll calls)).quadsFound r = d.quadsFound r
  /-- After any of the calls the quads are what they were. -/
  unseen : ∀ early later, calls = early ++ later →
    (d.afterAll early).quadsFound r = d.quadsFound r
  /-- What another client asks after any of the calls is answered as it was before all of them. -/
  asked : ∀ early later, calls = early ++ later → ∀ (j : ClientId) (text : String), j ≠ k →
    d.IsClient j.number r →
    (Backend.select (d.afterAll early) j text).result = (Backend.select d j text).result ∧
      (Backend.ask (d.afterAll early) j text).result = (Backend.ask d j text).result

/-- Each update request among the calls leaves the quads as it finds them. -/
def UpdatesKeep (d : Depot) (k : ClientId) (r : Nat) (calls : List Question) : Prop :=
  ∀ early text later data, calls = early ++ .act k (.update text) :: later →
    (d.afterAll early).found r = .ok data →
    ((d.afterAll early).revised text data).quads.Perm data.quads

/-- What becomes of a repository while a client works on it that does not commit. -/
structure Discards (d : Depot) (k : ClientId) (r : Nat) (calls : List Question) : Prop where
  /-- What is found after any of the calls is what was found before, changed by the update requests
  and by nothing else. -/
  account : ∀ early later, calls = early ++ later →
    (d.afterAll early).found r = (d.found r).map (d.updated early)
  /-- All clients of the repository are answered from what is found there. -/
  answered : ∀ early later, calls = early ++ later → ∀ (j : ClientId) (text : String),
    d.IsClient j.number r →
    (Backend.select (d.afterAll early) j text).result = (d.afterAll early).answer r rowsOf text ∧
    (Backend.ask (d.afterAll early) j text).result = (d.afterAll early).answer r verdictOf text
  /-- A rollback, a disconnection and an invalidation succeed and drop what is staged. -/
  dropped : ∀ a : Action, a.IsEnding →
    (Backend.act (d.afterAll calls) k a).result = .ok () ∧
    (Backend.act (d.afterAll calls) k a).state.found r = (d.afterAll calls).found r ∧
    ((Backend.act (d.afterAll calls) k a).state.client k.number).staged = []
  /-- Without update requests the dataset stays the same throughout, and so do all answers. -/
  untouched : (∀ text, .act k (.update text) ∉ calls) → ∀ early later, calls = early ++ later →
    (d.afterAll early).found r = d.found r ∧
    ∀ (j : ClientId) (text : String), d.IsClient j.number r →
      (Backend.select (d.afterAll early) j text).result = (Backend.select d j text).result ∧
      (Backend.ask (d.afterAll early) j text).result = (Backend.ask d j text).result
  /-- The calls are undone exactly if the update requests among them do nothing. -/
  exact : Undone d k r calls ↔ UpdatesKeep d k r calls

theorem answers {j : ClientId} (hj : d.IsClient j.number r) (text : String) :
    (Backend.select d j text).result = d.answer r rowsOf text ∧
      (Backend.ask d j text).result = d.answer r verdictOf text :=
  ⟨(leads_query (s := (d, [])) hj rowsOf text).result,
    (leads_query (s := (d, [])) hj verdictOf text).result⟩

/-- An answer that does not depend on the order of the quads tells no more than which quads there
are. -/
theorem answer_of_quadsFound {answerOf : String → Engine.Query → List Quad → Except Fault α}
    (hanswer : ∀ (text : String) (q : Engine.Query) {quads others : List Quad},
      quads.Perm others → answerOf text q quads = answerOf text q others)
    (hquads : e.quadsFound r = d.quadsFound r) (text : String) :
    e.answer r answerOf text = d.answer r answerOf text := by
  unfold quadsFound at hquads
  unfold answer
  cases query? text with
  | error fault => rfl
  | ok q =>
    show (e.found r >>= fun data => answerOf text q data.quads) =
      (d.found r >>= fun data => answerOf text q data.quads)
    cases he : e.found r with
    | error fault =>
      cases hd : d.found r with
      | error other =>
        rw [he, hd] at hquads
        obtain rfl := Except.error.inj hquads
        rfl
      | ok data =>
        rw [he, hd] at hquads
        contradiction
    | ok data =>
      cases hd : d.found r with
      | error other =>
        rw [he, hd] at hquads
        contradiction
      | ok before =>
        rw [he, hd] at hquads
        have hperm : data.quads.Perm before.quads :=
          Multiset.coe_eq_coe.mp (Except.ok.inj hquads)
        exact hanswer text q hperm

/-- What no call changes is at all times as it was before all of them.  The induction is on the
calls that have been made, since each one is put to the depot that they have left. -/
theorem kept_throughout {β : Type} (view : Except Fault Dataset → β)
    (hstep : ∀ early q later, calls = early ++ q :: later →
      view ((d.afterAll (early ++ [q])).found r) = view ((d.afterAll early).found r))
    (early : List Question) : ∀ later, calls = early ++ later →
      view ((d.afterAll early).found r) = view (d.found r) := by
  induction early using List.reverseRecOn with
  | nil => exact fun later _ => rfl
  | append_singleton early q ih =>
    intro later hsplit
    have hsplit' : calls = early ++ q :: later := by
      rw [hsplit, List.append_assoc]
      rfl
    exact (hstep early q later hsplit').trans (ih (q :: later) hsplit')

section

variable (hk : d.IsClient k.number r)

include hk

/-- A call is found as far as it is an update request, on the data that the calls before it have
left. -/
theorem found_concat (hcalls : ∀ q ∈ calls, IsWork d k r q) {early later : List Question}
    {q : Question} (hsplit : calls = early ++ q :: later) :
    IsWork (d.afterAll early) k r q ∧ (d.afterAll (early ++ [q])).found r =
      ((d.afterAll early).found r).map ((d.afterAll early).changedBy q) := by
  subst hsplit
  have hearly := shows_afterAll hk fun p hp => hcalls p (List.mem_append_left _ hp)
  have hq := (hcalls q (List.mem_append_right _ List.mem_cons_self)).of_shows hearly
  refine ⟨hq, ?_⟩
  unfold afterAll
  rw [List.foldl_concat]
  exact (shows_after (hearly.isClient hk) hq).found

/-- Without update requests nothing changes. -/
theorem found_throughout (hcalls : ∀ q ∈ calls, IsWork d k r q)
    (hnone : ∀ text, .act k (.update text) ∉ calls) :
    ∀ early later, calls = early ++ later → (d.afterAll early).found r = d.found r := by
  apply kept_throughout id
  intro early q later hsplit
  obtain ⟨hq, hfound⟩ := found_concat hk hcalls hsplit
  show (d.afterAll (early ++ [q])).found r = (d.afterAll early).found r
  rw [hfound]
  cases hq with
  | update text =>
    have hmem : .act k (.update text) ∈ calls := by
      rw [hsplit]
      exact List.mem_append_right _ List.mem_cons_self
    exact absurd hmem (hnone text)
  | _ => exact map_id _

theorem quads_throughout (hcalls : ∀ q ∈ calls, IsWork d k r q)
    (hkeep : UpdatesKeep d k r calls) :
    ∀ early later, calls = early ++ later → (d.afterAll early).quadsFound r = d.quadsFound r := by
  apply kept_throughout fun found => found.map fun data => (data.quads : Multiset Quad)
  intro early q later hsplit
  obtain ⟨hq, hfound⟩ := found_concat hk hcalls hsplit
  rw [hfound]
  cases hbefore : (d.afterAll early).found r with
  | error fault => rfl
  | ok data =>
    cases hq with
    | update text =>
      have hperm := hkeep early text later data hsplit hbefore
      exact congrArg Except.ok (Multiset.coe_eq_coe.mpr hperm)
    | _ => rfl

/-- If the calls are undone, then the quads are the same before and after each of them. -/
theorem updatesKeep_of_undone (hcalls : ∀ q ∈ calls, IsWork d k r q)
    (hundone : Undone d k r calls) : UpdatesKeep d k r calls := by
  intro early text later data hsplit hbefore
  have hafter := hundone.unseen (early ++ [.act k (.update text)]) later (by
    rw [hsplit, List.append_assoc]
    rfl)
  rw [← hundone.unseen early _ hsplit] at hafter
  unfold quadsFound at hafter
  rw [(found_concat hk hcalls hsplit).2, hbefore] at hafter
  exact Multiset.coe_eq_coe.mp (Except.ok.inj hafter)

/-- To end the work of the client changes nothing that is found. -/
theorem found_ending {a : Action} (ha : a.IsEnding) :
    ((Question.act k a).after d).found r = d.found r := by
  obtain ⟨t, hact, hshows, -⟩ := leads_ending (s := (d, [])) ha hk
  show (act k.number a (d, [])).2.1.found r = d.found r
  rw [hact]
  exact hshows.found

end

/-- Any calls of a client that does not commit, with queries of all clients between them. -/
theorem discards (hk : d.IsClient k.number r) (hcalls : ∀ q ∈ calls, IsWork d k r q) :
    Discards d k r calls := by
  -- of any first part of the calls, only the update requests show
  have hshows : ∀ early later, calls = early ++ later →
      Shows r d (d.afterAll early) ((d.found r).map (d.updated early)) := by
    intro early later hsplit
    apply shows_afterAll hk
    intro q hq
    apply hcalls
    rw [hsplit]
    exact List.mem_append_left _ hq
  have hanswered : ∀ early later, calls = early ++ later → ∀ (j : ClientId) (text : String),
      d.IsClient j.number r →
      (Backend.select (d.afterAll early) j text).result = (d.afterAll early).answer r rowsOf text ∧
      (Backend.ask (d.afterAll early) j text).result = (d.afterAll early).answer r verdictOf text :=
    fun early later hsplit j text hj => answers ((hshows early later hsplit).isClient hj) text
  have hend := (hshows calls [] (List.append_nil _).symm).isClient hk
  constructor
  case account => exact fun early later hsplit => (hshows early later hsplit).found
  case answered => exact hanswered
  case dropped =>
    intro a ha
    obtain ⟨t, hact, hsame, hstaged⟩ := leads_ending (s := (d.afterAll calls, [])) ha hend
    show (act k.number a (d.afterAll calls, [])).1 = .ok () ∧
      (act k.number a (d.afterAll calls, [])).2.1.found r = (d.afterAll calls).found r ∧
      ((act k.number a (d.afterAll calls, [])).2.1.client k.number).staged = []
    rw [hact]
    exact ⟨rfl, hsame.found, hstaged⟩
  case untouched =>
    intro hnone early later hsplit
    have hsame := found_throughout hk hcalls hnone early later hsplit
    refine ⟨hsame, ?_⟩
    intro j text hj
    rw [(hanswered early later hsplit j text hj).1, (hanswered early later hsplit j text hj).2,
      (answers hj text).1, (answers hj text).2]
    unfold answer
    rw [hsame]
    exact ⟨rfl, rfl⟩
  case exact =>
    constructor
    · exact updatesKeep_of_undone hk hcalls
    · intro hkeep
      have hsame := quads_throughout hk hcalls hkeep
      constructor
      · intro a ha
        unfold quadsFound
        rw [found_ending hend ha]
        exact hsame calls [] (List.append_nil _).symm
      · exact hsame
      · intro early later hsplit j text _ hj
        have hquads := hsame early later hsplit
        rw [(hanswered early later hsplit j text hj).1, (hanswered early later hsplit j text hj).2,
          (answers hj text).1, (answers hj text).2]
        exact ⟨answer_of_quadsFound rowsOf_perm hquads text,
          answer_of_quadsFound verdictOf_perm hquads text⟩

end

section

attribute [local instance] Engine.small

/-- An open repository in memory with two clients. -/
def shared : Depot where
  files := default
  repositories := [⟨"main", none, some (.memory .empty)⟩]
  clients := [⟨0, true, []⟩, ⟨0, true, []⟩]

theorem isClient_shared : shared.IsClient 0 0 ∧ shared.IsClient 1 0 :=
  ⟨⟨by decide, rfl, by decide⟩, ⟨by decide, rfl, by decide⟩⟩

/-- Whether a certain quad is there. -/
def looked : String := "ASK \x7b GRAPH <urn:g> \x7b <urn:s> <urn:p> <urn:o> \x7d \x7d"

/-- One client stages the quad and the other one looks for it. -/
theorem discards_staged :
    (shared.IsClient 0 0 ∧ ∀ q ∈ [Question.act ⟨0⟩ (.write (.addTriple ⟨"urn:s", "urn:p", "urn:o"⟩
      "urn:g")), .ask ⟨1⟩ looked], IsWork shared ⟨0⟩ 0 q) ∧
    Discards shared ⟨0⟩ 0 [.act ⟨0⟩ (.write (.addTriple ⟨"urn:s", "urn:p", "urn:o"⟩ "urn:g")),
      .ask ⟨1⟩ looked] := by
  have hcalls : ∀ q ∈ [Question.act ⟨0⟩ (.write (.addTriple ⟨"urn:s", "urn:p", "urn:o"⟩ "urn:g")),
      .ask ⟨1⟩ looked], IsWork shared ⟨0⟩ 0 q := by
    intro q hq
    simp only [List.mem_cons, List.not_mem_nil, or_false] at hq
    rcases hq with rfl | rfl
    · exact .write _
    · exact .ask _ isClient_shared.2 _
  exact ⟨⟨isClient_shared.1, hcalls⟩, discards isClient_shared.1 hcalls⟩

/-- A request to insert the quad. -/
def insertion : String :=
  "INSERT DATA \x7b GRAPH <urn:g> \x7b <urn:s> <urn:p> <urn:o> \x7d \x7d"

/-- The quad that the request inserts is found by the other client at once, and there is nothing
that a rollback could undo. -/
theorem insertion_not_undone : ¬ ∀ (d : Depot) (k : ClientId) (r : Nat) (calls : List Question),
    d.IsClient k.number r → (∀ q ∈ calls, IsWork d k r q) → Undone d k r calls := by
  intro hclaim
  have hcalls : ∀ q ∈ [Question.act ⟨0⟩ (.update insertion)], IsWork shared ⟨0⟩ 0 q := by
    intro q hq
    obtain rfl := List.mem_singleton.mp hq
    exact .update _
  have hundone := hclaim shared ⟨0⟩ 0 _ isClient_shared.1 hcalls
  have hkeep := updatesKeep_of_undone isClient_shared.1 hcalls hundone
  -- the request would have to leave the empty dataset empty
  have hempty : (shared.afterAll []).found 0 = .ok .empty := rfl
  have hsame := (hkeep [] insertion [] .empty rfl hempty).length_eq
  have hinserted : ((shared.afterAll []).revised insertion .empty).quads.length = 1 := by
    decide +kernel
  rw [hinserted] at hsame
  contradiction

end

end Depot

end GraphCommit
