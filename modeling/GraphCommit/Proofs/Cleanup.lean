import GraphCommit.Proofs.Opening
import GraphCommit.Proofs.Simulation
import GraphCommit.Proofs.Store.Twins
import GraphCommit.Proofs.Uniform
import GraphCommit.Query.Engine
import GraphCommit.Scripted

/-!
# A cleaned connection is as good as a new one

A connection that has been cleaned remembers nothing of its branch.  To say so, it is given up and a
new connection is put in its place (`replaced`).  The new one has a holder and a client of its own;
of the old one it has only the listeners, which are kept, and the count of the tokens, for a token
is never handed out twice.

Then the connector with the cleaned connection and the one with the new connection mirror each
other: the new holder and the new client go by the names of the old ones (`standIn`), and all that
is done afterwards returns the same on both.
-/

namespace GraphCommit

open Effect

/-! ## A new name for an old one -/

/-- Numbers below `next` are names in use.  Now `next` is the new name of `own`, and the names that
are not in use yet move up by one. -/
def standIn (own next n : Nat) : Nat :=
  if n = own then next else if n < next then n else n + 1

section

variable {own next n : Nat}

theorem standIn_self : standIn own next own = next := by simp [standIn]

theorem standIn_of_lt (hn : n < next) (hother : n ≠ own) : standIn own next n = n := by
  simp [standIn, hn, hother]

theorem standIn_later (hown : own < next) (n : Nat) :
    standIn own next (next + n) = next + 1 + n := by
  have hother : next + n ≠ own := Nat.ne_of_gt (Nat.lt_add_right n hown)
  have hlater : ¬ next + n < next := by omega
  simp only [standIn, if_neg hother, if_neg hlater]
  omega

theorem standIn_injective (own next : Nat) : Function.Injective (standIn own next) := by
  intro m n hsame
  unfold standIn at hsame
  split_ifs at hsame <;> omega

end

/-! ## Clients -/

namespace Depot

open Depot.Work

variable {d : Depot} {k : Nat} {s : Depot × List Record}

/-- The depot with another client of the main repository, which is connected. -/
def withClient (d : Depot) : Depot :=
  (d.addClient main).2.updateClient d.clients.length ({ · with connected := true })

theorem connectClient_apply (hs : s.1.Serving) :
    connectClient main s = (.ok s.1.clients.length, (s.1.withClient, s.2)) := by
  have hnew := serves_addClient hs
  apply connectClient_eq hs
  unfold connect
  rw [bind_apply, depot_apply]
  dsimp only
  rw [hnew.repository, bind_apply, initialize_main hnew.serving]
  rfl

theorem client_withClient_self (d : Depot) :
    d.withClient.client d.clients.length = { repository := main, connected := true } := by
  have hlt : d.clients.length < (d.addClient main).2.clients.length := by simp [addClient]
  rw [withClient, client_updateClient_self hlt, client_addClient]

theorem client_withClient_of_lt (hk : k < d.clients.length) :
    d.withClient.client k = d.client k := by
  rw [withClient, client_updateClient_ne (Nat.ne_of_lt hk), client_addClient_of_lt hk]

theorem length_withClient (d : Depot) : d.withClient.clients.length = d.clients.length + 1 := by
  simp [withClient, updateClient, addClient]

/-- A new client stands in for one that has staged nothing. -/
theorem twins_withClient (hk : d.Serves k) (hstaged : (d.client k).staged = []) :
    Twins (standIn k d.clients.length) d d.withClient := by
  have hclients : ∀ j, (d.withClient.client (standIn k d.clients.length j)).repository =
      (d.client j).repository ∧ (d.withClient.client (standIn k d.clients.length j)).staged =
      (d.client j).staged := by
    intro j
    by_cases hjk : j = k
    · rw [hjk, standIn_self, client_withClient_self, hk.repository, hstaged]
      exact ⟨rfl, rfl⟩
    · by_cases hj : j < d.clients.length
      · rw [standIn_of_lt hj hjk, client_withClient_of_lt hj]
        exact ⟨rfl, rfl⟩
      · obtain ⟨n, rfl⟩ := Nat.exists_eq_add_of_le (Nat.le_of_not_lt hj)
        have hnone : d.withClient.client (d.clients.length + 1 + n) = default :=
          client_of_ge (by rw [length_withClient]; omega)
        rw [standIn_later hk.exist, hnone, client_of_ge (Nat.le_add_right _ _)]
        exact ⟨rfl, rfl⟩
  constructor
  · rfl
  · exact fun j => (hclients j).1
  · exact fun j => (hclients j).2
  · intro n
    rw [length_withClient]
    exact standIn_later hk.exist n

end Depot

theorem Recorded.create_apply [Engine] {r : Recorded Depot} (hr : r.stores.Serving) :
    (Backend.create r).result = .ok ⟨r.stores.clients.length⟩ ∧
      (Backend.create r).state.stores = r.stores.withClient := by
  have hresponse : Backend.create r.stores = _ := respond_map
  rw [Depot.connectClient_apply (s := (r.stores, [])) hr] at hresponse
  exact ⟨congrArg Response.result hresponse, congrArg Response.state hresponse⟩

/-! ## Connections -/

/-- As many tokens as this were handed out, and none of them is valid. -/
def Tokens.spent (n : Nat) : Tokens where
  flags := List.replicate n false
  single := by simp [List.getElem?_replicate]

/-- Of tokens that were withdrawn there is nothing to know but how many there are. -/
theorem Tokens.withdraw_eq (x : Tokens) : x.withdraw = .spent x.issued := by
  have hflags : x.withdrawn = List.replicate x.issued false := by
    refine List.eq_replicate_iff.mpr ⟨x.issued_withdraw, fun flag hflag => ?_⟩
    obtain ⟨t, hget⟩ := List.getElem?_of_mem hflag
    cases flag with
    | false => rfl
    | true => exact absurd hget (x.withdrawn_down t)
  simp only [withdraw, spent, hflags]

/-- Of a connection without a branch there is nothing else to know. -/
theorem Connection.eq_of_blank {x : Connection} (hbranch : x.participant.branch = Branch.idle)
    (hjournal : x.participant.journal = Journal.empty) (htokens : x.tokens = .spent x.issued) :
    x = { holder := x.holder
          participant := { client := x.client, strategy := x.participant.strategy }
          derives := x.derives
          listeners := x.listeners
          tokens := .spent x.issued } := by
  obtain ⟨holder, ⟨client, strategy, journal, branch⟩, derives, listeners, tokens⟩ := x
  obtain rfl : branch = Branch.idle := hbranch
  obtain rfl : journal = Journal.empty := hjournal
  exact congrArg (fun tokens => Connection.mk holder ⟨client, strategy, .empty, .idle⟩ derives
    listeners tokens) htokens

namespace Connector

variable {S : Type} [Backend S] {c : Connector S} {i : Nat}

/-- A connector to which a connection is added. -/
theorem connectWith_apply {client : ClientId} (strategy : Strategy)
    (hclient : (Backend.create c.outside.stores).result = .ok client) :
    ∃ o, o.stores = (Backend.create c.outside.stores).state ∧
      o.log.threshold = c.outside.log.threshold ∧
      connectWith strategy c = (.ok c.connections.length, { c with
        locks := c.locks.register.2
        outside := o
        connections := c.connections ++
          [{ holder := c.locks.register.1
             participant := { client, strategy }
             derives := c.hasWorking }] }) := by
  simp only [connectWith, bind_apply, job_apply, Job.call_apply, hclient]
  refine ⟨_, ?_, ?_, rfl⟩
  · rfl
  · simp [Outside.note]

omit [Backend S] in
theorem connection_eq_getElem (hi : i < c.connections.length) :
    c.connection i = c.connections[i] := by
  simp [connection, List.getD_eq_getElem?_getD, hi]

/-- The connector where a connection is given up and a new one with the same strategy is put in its
place.  The new one takes over the listeners and the count of the tokens. -/
def replaced (c : Connector S) (i : Nat) : Connector S :=
  let d := (connectWith (c.connection i).participant.strategy c).2
  { d with
    connections := d.connections.dropLast.modify i fun x =>
      { d.connection c.connections.length with
        listeners := x.listeners, tokens := .spent x.issued } }

/-- A new connection that takes over the listeners of an old one and the count of its tokens. -/
def successor (c : Connector S) (client : ClientId) (strategy : Strategy) (x : Connection) :
    Connection where
  holder := c.locks.register.1
  participant := { client, strategy }
  derives := c.hasWorking
  listeners := x.listeners
  tokens := .spent x.issued

/-- The name that a holder has there. -/
def naming (c : Connector S) (i : Nat) (h : Holder) : Holder :=
  ⟨standIn (c.connection i).holder.number (c.locks.registered + 1) h.number⟩

omit [Backend S] in
theorem naming_injective (c : Connector S) (i : Nat) : Function.Injective (c.naming i) := by
  rintro ⟨m⟩ ⟨n⟩ hsame
  exact congrArg Holder.mk (standIn_injective _ _ (Holder.mk.inj hsame))

omit [Backend S] in
/-- Other holders keep their names. -/
theorem naming_of_ne {h : Holder} (hregistered : h.number ≤ c.locks.registered)
    (hother : h ≠ (c.connection i).holder) : c.naming i h = h := by
  have hnumber : h.number ≠ (c.connection i).holder.number := by
    intro heq
    apply hother
    cases h
    exact congrArg Holder.mk heq
  exact congrArg Holder.mk (standIn_of_lt (Nat.lt_succ_of_le hregistered) hnumber)

end Connector

namespace Schedule

variable {s t : Schedule (Recorded Depot)} {m : Move} {i : Nat}

/-- A connection that has neither a branch nor a valid token, and nothing to do with the lock. -/
structure IsBlank {S : Type} (s : Schedule S) (i : Nat) : Prop where
  lt : i < s.size
  branch : s.branch i = Branch.idle
  journal : s.journal i = Journal.empty
  spent : (s.connection i).tokens = .spent (s.connection i).issued
  absent : ∀ r ∈ s.connector.locks.requests, r.holder ≠ (s.connection i).holder
  quiet : s.connector.locks.IsQuiet (s.connection i).holder

/-- Whoever is cleaned exists, and none of its calls waits. -/
theorem Step.rests_of_cleans {S : Type} [Backend S] {s t : Schedule S} (hstep : Step s m t)
    (ho : s.core.Orderly s.tasks) (hcleans : s.Cleans i m) :
    i < s.size ∧ s.connector.locks.IsQuiet (s.connection i).holder := by
  have hfree : ∀ {j}, s.IsFree j →
      j < s.size ∧ s.connector.locks.IsQuiet (s.connection j).holder := by
    rintro j ⟨hj, hidle⟩
    have hrests := ho.fits j hj
    rw [hidle] at hrests
    exact ⟨hj, hrests.quiet⟩
  cases hstep with
  | @cleanup j hidle =>
    obtain rfl : j = i := hcleans
    exact hfree hidle
  | @tell j kind error l rest htask htell =>
    rcases htell i ((cleans_tell htask).mp hcleans) with rfl | hidle
    · have hi : i < s.core.size := ho.lt_of_task (by simp [htask])
      have hrests := ho.fits i hi
      rw [htask] at hrests
      exact ⟨hi, hrests.quiet⟩
    · exact hfree hidle
  | _ => exact hcleans.elim

/-- A cleaned connection is blank. -/
theorem Step.blank_of_cleans {S : Type} [Backend S] {s t : Schedule S} (hstep : Step s m t)
    (ho : s.core.Orderly s.tasks) (hcleans : s.Cleans i m) : t.IsBlank i := by
  obtain ⟨hi, hquiet⟩ := hstep.rests_of_cleans ho hcleans
  have hcore := hstep.core_of_cleans hcleans
  have hconnection : t.connection i = (s.connection i).reset := by
    change t.core.connection i = _
    rw [hcore]
    exact Core.connection_clean_self hi
  have hlocks : t.connector.locks = s.connector.locks.unlockAll (s.connection i).holder :=
    congrArg Core.locks hcore
  have hholder : (t.connection i).holder = (s.connection i).holder := by
    rw [hconnection]
    rfl
  have hquit := LockManager.unlockAll_eq hquiet
  constructor
  · exact Nat.lt_of_lt_of_le hi hstep.size_le
  · rw [branch, hconnection]
    rfl
  · rw [journal, hconnection]
    rfl
  · rw [hconnection, Connection.issued]
    change (s.connection i).tokens.withdraw = .spent (s.connection i).tokens.withdraw.issued
    rw [Tokens.issued_withdraw, Tokens.withdraw_eq]
  · rw [hholder, hlocks, hquit]
    exact fun r hr => ((Lock.Queue.mem_releaseAll _ _ _).mp hr).2
  · rw [hholder, hlocks, hquit]
    exact LockManager.quit_quiet _ _ _

/-- The name that a client has once a new one stands in for that of a connection. -/
def clientNaming (s : Schedule (Recorded Depot)) (i : Nat) : Nat → Nat :=
  standIn (s.core.client i).number s.core.depot.clients.length

section

variable [Engine]

/-- Under the new names a blank connection is its own successor, and all others are as they were. -/
theorem IsBlank.under (hblank : s.IsBlank i) (hs : s.Serves) {j : Nat} (hj : j < s.size) :
    (s.connection j).under (s.connector.naming i) (ClientId.rename (s.clientNaming i)) =
      if j = i then
        s.connector.successor ⟨s.core.depot.clients.length⟩ (s.connection i).participant.strategy
          (s.connection j)
      else s.connection j := by
  have hk := hs.kept
  have ho := hs.orderly
  by_cases hji : j = i
  · -- its names become those of the new holder and the new client, and there is nothing else in it
    subst hji
    have hderives : (s.connection j).derives = s.connector.hasWorking := by
      rw [connection, Connector.connection_eq_getElem hj]
      exact hs.reachable.uniform.derives _ (List.getElem_mem hj)
    have hholder : s.connector.naming j (s.connection j).holder = s.connector.locks.register.1 :=
      congrArg Holder.mk standIn_self
    have hclient : ClientId.rename (s.clientNaming j) (s.core.client j) =
        ⟨s.core.depot.clients.length⟩ := congrArg ClientId.mk standIn_self
    rw [if_pos rfl, Connector.successor, ← hholder, ← hclient, ← hderives]
    exact congrArg (Connection.under (s.connector.naming j) (ClientId.rename (s.clientNaming j)))
      (Connection.eq_of_blank hblank.branch hblank.journal hblank.spent)
  · -- the names of other connections are not exchanged
    rw [if_neg hji]
    have hholder : s.connector.naming i (s.connection j).holder = (s.connection j).holder := by
      apply Connector.naming_of_ne (ho.registered j hj)
      exact fun heq => hji (ho.holders j i hj hblank.lt heq)
    have hclient : ClientId.rename (s.clientNaming i) (s.core.client j) = s.core.client j := by
      apply clientId_ext
      apply standIn_of_lt (hk.serves j hj).exist
      exact fun heq => hji (hk.distinct j i hj hblank.lt (clientId_ext heq))
    show ({ s.connection j with
      holder := s.connector.naming i (s.connection j).holder
      participant := { (s.connection j).participant with
        client := ClientId.rename (s.clientNaming i) (s.core.client j) } } : Connection) = _
    rw [hholder, hclient]
    rfl

theorem IsBlank.connections (hblank : s.IsBlank i) (hs : s.Serves) :
    s.connector.connections.modify i (s.connector.successor ⟨s.core.depot.clients.length⟩
        (s.connection i).participant.strategy) =
      s.connector.connections.map
        (Connection.under (s.connector.naming i) (ClientId.rename (s.clientNaming i))) := by
  apply List.ext_getElem
  · simp
  · intro j hj hj'
    have hlt : j < s.connector.connections.length := by simpa using hj
    have hunder := hblank.under hs hlt
    have hself : s.connection j = s.connector.connections[j] := Connector.connection_eq_getElem hlt
    rw [hself] at hunder
    rw [List.getElem_modify, List.getElem_map, hunder]
    by_cases hji : j = i
    · rw [if_pos hji, if_pos hji.symm]
    · rw [if_neg hji, if_neg (Ne.symm hji)]

/-- The connector where a new connection was put in the place of another one. -/
theorem replaced_eq (hs : s.Serves) (i : Nat) :
    ∃ o : Outside (Recorded Depot), o.stores.stores = s.core.depot.withClient ∧
      o.log.threshold = s.connector.outside.log.threshold ∧
      s.connector.replaced i = { s.connector with
        locks := s.connector.locks.register.2
        outside := o
        connections := s.connector.connections.modify i
          (s.connector.successor ⟨s.core.depot.clients.length⟩
            (s.connection i).participant.strategy) } := by
  obtain ⟨hcreate, hstate⟩ :=
    Recorded.create_apply (r := s.connector.outside.stores) hs.kept.serving
  obtain ⟨o, hstores, hthreshold, hconnect⟩ :=
    Connector.connectWith_apply (c := s.connector) (s.connection i).participant.strategy hcreate
  refine ⟨o, ?_, hthreshold, ?_⟩
  · rw [hstores, hstate]
    rfl
  · unfold Connector.replaced
    rw [hconnect]
    simp [Connector.connection, List.getD_eq_getElem?_getD]
    rfl

/-- A new connection mirrors a blank one. -/
theorem IsBlank.mirror (hblank : s.IsBlank i) (hs : s.Serves) :
    Connector.Mirror (Depot.OverTwins (s.clientNaming i)) (s.connector.naming i)
      (ClientId.rename (s.clientNaming i)) s.connector.notices s.size s.connector
      (s.connector.replaced i) := by
  have hk := hs.kept
  have ho := hs.orderly
  have hempty : (s.journal i).writes = [] := congrArg Journal.writes hblank.journal
  obtain ⟨o, hstores, hthreshold, hreplaced⟩ := replaced_eq hs i
  rw [hreplaced]
  constructor
  · rfl
  -- no request and no waiting call is of a holder whose name changes
  · have hsame : ∀ r ∈ s.connector.locks.requests, s.connector.naming i r.holder = r.holder :=
      fun r hr => Connector.naming_of_ne (ho.coherent.registered r hr) (hblank.absent r hr)
    have hrename := LockManager.rename_of_same (n := s.connector.locks.registered + 1) hsame
      fun call hcall => hsame _ (ho.coherent.entered call hcall).2
    exact hrename.symm
  · exact hblank.connections hs
  · exact ⟨[], by simp, by simp⟩
  · constructor
    · rw [hstores]
      exact Depot.twins_withClient (hk.serves i hblank.lt) (hk.unstaged i hblank.lt hempty)
    · exact hthreshold.symm
  · exact Nat.le_refl _
  · intro n
    exact congrArg Holder.mk (standIn_later (Nat.lt_succ_of_le (ho.registered i hblank.lt)) n)

end

/-! ## Handles -/

/-- A handle that is handed out has a token that is not handed out again. -/
theorem Step.token_lt_issued {S : Type} [Backend S] {s t : Schedule S} {h : Handle}
    (hstep : Step s (.getHandle i) t)
    (hgiven : (Connector.getHandle i s.connector).1 = .ok h) :
    i < t.size ∧ h.connection = i ∧ h.token < (t.connection i).issued := by
  have hhandle : (Connector.getHandle i s.connector).1 = .ok ⟨i, (s.connection i).token.1⟩ := by
    unfold Connector.getHandle
    rw [bind_apply, Connector.connectionAt_apply]
    dsimp only
    rcases (s.connector.connection i).token with ⟨token, isNew, x⟩
    cases isNew <;> rfl
  obtain rfl : h = ⟨i, (s.connection i).token.1⟩ := Except.ok.inj (hgiven.symm.trans hhandle)
  have hsize := hstep.size_le
  cases hstep with
  | getHandle hfree =>
    have hself : (s.after (Connector.getHandle i)).connection i = (s.connection i).token.2.2 := by
      change (Connector.getHandle i s.connector).2.core.connection i = _
      rw [Connector.getHandle_core]
      exact Core.connection_update_self hfree.1
    refine ⟨Nat.lt_of_lt_of_le hfree.1 hsize, rfl, ?_⟩
    rw [hself]
    exact Tokens.lt_issued (Connection.valid_token _)

end Schedule

/-! ## The whole statement -/

namespace Connector

/-- Two connectors cannot be told apart but by the names of holders and clients. -/
structure Alike (naming : Holder → Holder) (past : List Notice)
    (c d : Connector (Recorded Depot)) : Prop where
  size : d.connections.length = c.connections.length
  branch : ∀ j, (d.connection j).participant.branch = (c.connection j).participant.branch
  journal : ∀ j, (d.connection j).journal = (c.connection j).journal
  /-- What a release would derive. -/
  derived : ∀ j, (d.connection j).derivedContext? = (c.connection j).derivedContext?
  listeners : ∀ j, (d.connection j).listeners = (c.connection j).listeners
  handles : ∀ h, d.isValid h = c.isValid h
  requests : d.locks.requests = c.locks.requests.rename naming
  waiting : d.locks.waiting = c.locks.waiting.map (Lock.Call.rename naming)
  gaveUp : d.locks.gaveUp = c.locks.gaveUp
  committed : d.outside.stores.stores.committed = c.outside.stores.stores.committed
  heard : ∃ heard, c.notices = past ++ heard ∧ d.notices = past ++ heard.map (Notice.under naming)

theorem Mirror.alike {ρ : Nat → Nat} {naming : Holder → Holder} {past : List Notice} {enough : Nat}
    {c d : Connector (Recorded Depot)}
    (hc : Mirror (Depot.OverTwins ρ) naming (ClientId.rename ρ) past enough c d) :
    Alike naming past c d := by
  have hsize : d.connections.length = c.connections.length := by
    rw [hc.connections, List.length_map]
  -- all connections are mirrored, and not only as many as were asked for
  have hfull : Mirror (Depot.OverTwins ρ) naming (ClientId.rename ρ) past c.connections.length c
      d := { hc with size := Nat.le_refl _ }
  -- what does not tell holders and clients apart is the same in both
  have hsame : ∀ {α : Type} (f : Connection → α),
      (∀ x, f (x.under naming (ClientId.rename ρ)) = f x) →
      ∀ j, f (d.connection j) = f (c.connection j) := by
    intro α f hf j
    by_cases hj : j < c.connections.length
    · rw [hfull.connection hj, hf]
    · have hge := Nat.le_of_not_lt hj
      have hleft : c.connection j = default := Core.connection_of_ge (c := c.core) hge
      have hright : d.connection j = default :=
        Core.connection_of_ge (c := d.core) (show d.connections.length ≤ j from hsize ▸ hge)
      rw [hleft, hright]
  constructor
  · exact hsize
  · exact hsame (fun x => x.participant.branch) fun _ => rfl
  · exact hsame Connection.journal fun _ => rfl
  · exact hsame Connection.derivedContext? fun _ => rfl
  · exact hsame Connection.listeners fun _ => rfl
  · intro h
    rw [isValid, isValid, hsame Connection.tokens (fun _ => rfl) h.connection]
  · rw [hc.locks]
    rfl
  · rw [hc.locks]
    rfl
  · rw [hc.locks]
    rfl
  · rw [Depot.committed, Depot.committed, hc.outside.twins.data?_eq]
  · exact hc.notices

variable {S : Type} [Backend S]

/-- What a cleaning comes to, whatever the client says to it. -/
structure CleansUp (c : Connector S) (i : Nat) : Prop where
  /-- It returns what the client has returned, be it a fault. -/
  result : (cleanup i c).1 =
    (Backend.act c.outside.stores (c.connection i).client .invalidate).result.mapError .fault
  branch : ((cleanup i c).2.connection i).participant.branch = Branch.idle
  journal : ((cleanup i c).2.connection i).journal = Journal.empty
  handles : ∀ h, h.connection = i → (cleanup i c).2.isValid h = false
  /-- The requests of the others stay in the queue, in their order, and no other ones. -/
  requests : (cleanup i c).2.locks.requests =
    c.locks.requests.filter fun r => r.holder != (c.connection i).holder

theorem cleansUp (c : Connector S) (i : Nat) : c.CleansUp i := by
  have hcore := (cleanup_ends i c).core
  have hreset : (cleanup i c).2.connection i = (c.connection i).reset := by
    change (cleanup i c).2.core.connection i = _
    rw [hcore]
    by_cases hi : i < c.core.size
    · exact Core.connection_clean_self hi
    -- where there is no connection there is nothing to clean
    · have hge := Nat.le_of_not_lt hi
      have hleft : (c.core.clean i).connection i = default :=
        Core.connection_of_ge (Nat.le_trans (Nat.le_of_eq Core.size_clean) hge)
      have hright : c.connection i = default := Core.connection_of_ge (c := c.core) hge
      rw [hleft, hright]
      rfl
  constructor
  · simp only [cleanup, bind_apply, connectionAt_apply, note_apply, update_apply,
      observe_job_apply, unlockAll_apply, ClientId.act_apply, Outside.stores_note]
    cases (Backend.act c.outside.stores (c.connection i).client .invalidate).result with
    | error f => rfl
    | ok _ => rfl
  · rw [hreset]
    rfl
  · rw [hreset]
    rfl
  · rintro h rfl
    rw [isValid, hreset, ← Bool.not_eq_true, Tokens.isValid_iff]
    exact Tokens.not_valid_withdraw _
  · exact congrArg (fun k : Core S => k.locks.requests) hcore

end Connector

namespace Schedule

variable {s t : Schedule (Recorded Depot)} {m : Move} {i : Nat}

section

variable [Engine]

/-- The schedule where a connection is given up and a new one is put in its place. -/
def replaced (s : Schedule (Recorded Depot)) (i : Nat) : Schedule (Recorded Depot) :=
  { s with connector := s.connector.replaced i }

/-- Two schedules cannot be told apart but by the names of holders and clients. -/
structure Alike (naming : Holder → Holder) (past : List Notice)
    (s r : Schedule (Recorded Depot)) : Prop where
  connector : s.connector.Alike naming past r.connector
  tasks : r.tasks = s.tasks
  /-- The coordinator gets the same votes. -/
  answer : ∀ j command, j < s.size → r.answer j command = s.answer j command

/-- A connection that is cleaned, from `s` to `t`, begins anew. -/
structure BeginsAnew (s t : Schedule (Recorded Depot)) (i : Nat) : Prop where
  /-- A new connection can be made, and it is the one that is put in the place of the old one. -/
  made : (Connector.connectWith (t.connection i).participant.strategy t.connector).1 = .ok t.size
  /-- Whatever is done from now on returns the same as with the new connection, and no difference
  is left. -/
  continues : ∀ ps, t.connector.Allows ps →
    (t.connector.replaced i).results (ps.map (Piece.rename (t.connector.naming i))) =
        t.connector.results ps ∧
      (t.connector.follow ps).Alike (t.connector.naming i) t.connector.notices
        ((t.connector.replaced i).follow (ps.map (Piece.rename (t.connector.naming i))))
  /-- The same moves are possible from now on, also while calls of others wait, and no difference
  is left after them. -/
  runs : ∀ moves, Option.Rel (Alike (t.connector.naming i) t.connector.notices) (t.follow moves)
    ((t.replaced i).follow (moves.map (Move.rename (t.connector.naming i))))
  /-- Handles that were handed out before the cleaning stay invalid. -/
  retired : ∀ (s₁ s₂ : Schedule (Recorded Depot)) (h : Handle), s₁.Reachable →
    Step s₁ (.getHandle i) s₂ → (Connector.getHandle i s₁.connector).1 = .ok h →
    Leads (fun _ _ => True) s₂ s → ∀ ps, (t.connector.follow ps).isValid h = false
  /-- The requests of the others keep their order, and none of this connection is left. -/
  requests : t.connector.locks.requests =
    s.connector.locks.requests.filter fun r => r.holder != (s.connection i).holder

/-- No question to the stores tells them apart. -/
theorem mirrors_clientNaming (s : Schedule (Recorded Depot)) (i : Nat) :
    Mirrors (Depot.OverTwins (s.clientNaming i)) (ClientId.rename (s.clientNaming i)) :=
  Depot.mirrors_twins (standIn_injective _ _)

theorem IsBlank.continues (hblank : s.IsBlank i) (hs : s.Serves) {ps : List Piece}
    (hps : s.connector.Allows ps) :
    (s.connector.replaced i).results (ps.map (Piece.rename (s.connector.naming i))) =
        s.connector.results ps ∧
      (s.connector.follow ps).Alike (s.connector.naming i) s.connector.notices
        ((s.connector.replaced i).follow (ps.map (Piece.rename (s.connector.naming i)))) := by
  obtain ⟨hresults, hmirror⟩ := (hblank.mirror hs).follow (s.mirrors_clientNaming i)
    (s.connector.naming_injective i)
    (fun message ho => ho.note .info Record.audit message message) hps
  exact ⟨hresults, hmirror.alike⟩

theorem IsBlank.runs (hblank : s.IsBlank i) (hs : s.Serves) (moves : List Move) :
    Option.Rel (Alike (s.connector.naming i) s.connector.notices) (s.follow moves)
      ((s.replaced i).follow (moves.map (Move.rename (s.connector.naming i)))) := by
  have hmirrors := s.mirrors_clientNaming i
  have hbegin : Mirror (Depot.OverTwins (s.clientNaming i)) (s.connector.naming i)
      (ClientId.rename (s.clientNaming i)) s.connector.notices s (s.replaced i) :=
    ⟨hblank.mirror hs, rfl⟩
  have hfollow := hbegin.follow hmirrors (s.connector.naming_injective i)
    (fun message ho => ho.note .info Record.audit message message) hs.reachable moves
  generalize s.follow moves = done at hfollow ⊢
  generalize (s.replaced i).follow (moves.map (Move.rename (s.connector.naming i))) = done'
    at hfollow ⊢
  cases hfollow with
  | none => exact .none
  | some hends =>
    exact .some ⟨hends.connector.alike, hends.tasks,
      fun _ command hj => hends.answer hmirrors hj command⟩

omit [Engine] in
/-- Once a connection is blank, none of the handles that it has given out becomes valid again. -/
theorem IsBlank.retired {S : Type} [Backend S] {s₁ s₂ t : Schedule S} {h : Handle}
    (hblank : t.IsBlank i) (hs₁ : s₁.Reachable) (hgiving : Step s₁ (.getHandle i) s₂)
    (hgiven : (Connector.getHandle i s₁.connector).1 = .ok h)
    (hrun : Leads (fun _ _ => True) s₂ t) (ps : List Piece) :
    (t.connector.follow ps).isValid h = false := by
  obtain ⟨hi, rfl, htoken⟩ := hgiving.token_lt_issued hgiven
  have hs₂ : s₂.Reachable := by
    obtain ⟨s₀, hnew, hbefore⟩ := hs₁
    exact ⟨s₀, hnew, hbefore.tail trivial hgiving⟩
  obtain ⟨qs, -, hfollow⟩ := hrun.pieces hs₂
  -- no token is valid now, and the count has gone past that of the handle
  have hissued := (Connector.numbersOn_follow (c := s₂.connector) hi qs).issued
  rw [hfollow] at hissued
  have hinvalid : (t.connection h.connection).valid ≠ some h.token := by
    rw [Connection.valid, hblank.spent]
    exact nofun
  have hretired := (Connector.numbersOn_follow (c := t.connector) hblank.lt ps).retired h.token
    (Nat.lt_of_lt_of_le htoken hissued) hinvalid
  rw [Connector.isValid, ← Bool.not_eq_true, Tokens.isValid_iff]
  exact hretired

/-- A new connection can be made at any time. -/
theorem Serves.made (hs : s.Serves) (strategy : Strategy) :
    (Connector.connectWith strategy s.connector).1 = .ok s.size := by
  obtain ⟨hcreate, -⟩ :=
    Recorded.create_apply (r := s.connector.outside.stores) hs.kept.serving
  obtain ⟨o, -, -, hconnect⟩ := Connector.connectWith_apply (c := s.connector) strategy hcreate
  rw [hconnect]
  rfl

theorem begins_anew (hs : s.Serves) (hstep : Step s m t) (hcleans : s.Cleans i m) :
    s.BeginsAnew t i := by
  have ht : t.Serves := hs.step hstep
  have hblank : t.IsBlank i := hstep.blank_of_cleans hs.orderly hcleans
  have hcore := hstep.core_of_cleans hcleans
  constructor
  · exact ht.made _
  · exact fun ps hps => hblank.continues ht hps
  · exact hblank.runs ht
  · intro s₁ s₂ h hs₁ hgiving hgiven hrun ps
    exact hblank.retired hs₁ hgiving hgiven (hrun.tail trivial hstep) ps
  · exact congrArg (fun k : Core (Recorded Depot) => k.locks.requests) hcore

end

/-- Cleaning a connection is a full reset.  At any time of any run over an open repository, nothing
that is done after the cleaning of a connection tells it from a new one.  With any stores, also if
the client cannot be invalidated, a cleaning forgets the branch and its writes, makes the handle
invalid, takes all requests of the connection out of the queue, and returns what the client has
returned. -/
theorem cleanup_begins_anew :
    (∀ [Engine] (s t : Schedule (Recorded Depot)) (m : Move) (i : Nat), s.Serves → Step s m t →
      s.Cleans i m → s.BeginsAnew t i) ∧
    ∀ (S : Type) [Backend S] (c : Connector S) (i : Nat), c.CleansUp i :=
  ⟨fun _ _ _ _ hs hstep hcleans => begins_anew hs hstep hcleans, fun _ _ c i => c.cleansUp i⟩

section

attribute [local instance] Engine.small

/-- A connection is cleaned in the middle of a branch while another one waits for the lock, and a
connection is cleaned whose client cannot be invalidated. -/
theorem cleanup_begins_anew_writing :
    (∃ s t : Schedule (Recorded Depot), (s.journal 0).writes.length = 1 ∧
      s.connector.locks.requests.length = 2 ∧ s.BeginsAnew t 0 ∧
      t.connector.locks.requests.map (·.holder) = [(t.connection 1).holder]) ∧
    ∃ (c : Connector Scripted) (f : Fault), c.CleansUp 0 ∧
      (Connector.cleanup 0 c).1 = .error (.fault f) := by
  constructor
  · obtain ⟨s, t, hs, ht, hjournal, hrequests, hleft⟩ : ∃ s t,
        openStart.follow [.connect, .connect, .getHandle 0,
          .coordinate 0 (.start ⟨1, [1], [1]⟩ Flags.none),
          .beginAccess 0 (.write (.addTriple ⟨"urn:s", "urn:p", "urn:o"⟩ "urn:g")), .carryOut 0,
          .beginAccess 1 (.write (.clear "urn:g"))] = some s ∧
        s.next (.cleanup 0) = some t ∧ (s.journal 0).writes.length = 1 ∧
        s.connector.locks.requests.length = 2 ∧
        t.connector.locks.requests.map (·.holder) = [(t.connection 1).holder] :=
      ⟨_, _, rfl, rfl, rfl, rfl, rfl⟩
    have hserves : s.Serves := serves_openStart.leads (leads_of_follow (fun _ _ _ => trivial) hs)
    exact ⟨s, t, hjournal, hrequests,
      cleanup_begins_anew.1 s t _ 0 hserves (step_iff.mpr ht) rfl, hleft⟩
  · let stores : Scripted :=
      { clients := [(.onCommit, { failures := [("invalidate", ⟨.connection "lost", 0, none⟩)] })] }
    let c : Connector Scripted :=
      { settings := {}, locks := {}, outside := ⟨stores, Log.silent⟩, hasWorking := false
        connections :=
          [{ holder := ⟨1⟩
             participant := { client := Scripted.mainClient 0, strategy := .plain }
             derives := false }] }
    exact ⟨c, .connection "lost", cleanup_begins_anew.2 Scripted c 0, rfl⟩

end

end Schedule

end GraphCommit
