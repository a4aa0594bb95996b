import GraphCommit.Proofs.Derivation
import GraphCommit.Proofs.Derivation.Target
import GraphCommit.Proofs.Store.Vacant
import GraphCommit.Query.Engine

/-!
# Derivations one after another

All derivations use one working repository.  What a derivation stages there is of its own context,
and when it ends, however it ends, it clears this context behind all that it has staged
(`ensures_cleaned`).  So as long as the store itself does not fail, every derivation leaves the
working repository as it found it, vacant (`ensures_left`), and after any sequence of derivations
the next one is not disturbed: it returns the same and has its target write the same as with a
working repository that was made anew (`sequence_undisturbed`).
-/

namespace GraphCommit

open Effect Depot.Work

variable {α : Type}

/-- Questions that are answered alike are remembered alike. -/
theorem Recorded.calls_put_congr {S : Type} {k : ClientId} {q : Question} {r r' : Recorded S}
    {answer : S → Response S α} (hcalls : r.calls k = r'.calls k)
    (hanswer : (answer r.stores).result = (answer r'.stores).result) :
    (r.put q answer).state.calls k = (r'.put q answer).state.calls k := by
  simp only [calls, put, List.filterMap_append, hanswer] at hcalls ⊢
  rw [hcalls]
  rfl

/-- While the working repository is open, the response to a question is read off the desk. -/
theorem Depot.Decides.respond {k : Nat} {work : Depot.Work α} {call : Desk → Except Fault α × Desk}
    {d : Depot} (hwork : Depot.Decides k work call) (hopen : d.WorkingOpen)
    (hk : d.desk.repositories[k]? = some Depot.working) :
    (work.respond d).result = (call d.desk).1 ∧ (work.respond d).state.WorkingOpen ∧
      (work.respond d).state.desk = (call d.desk).2 := by
  obtain ⟨t, happly, hopen', hdesk⟩ := hwork.acts d hopen hk
  have hresponse : work.respond d = ⟨(call d.desk).1, t.1, t.2⟩ := by
    simp only [Depot.Work.respond, ExceptT.run, happly]
  rw [hresponse]
  exact ⟨rfl, hopen', hdesk⟩

theorem Depot.Decides.sound_respond {k : Nat} {work : Depot.Work α}
    {call : Desk → Except Fault α × Desk} {d : Depot} (hwork : Depot.Decides k work call)
    (hopen : d.WorkingOpen)
    (hk : d.desk.repositories[k]? = some Depot.working) (hsound : d.IsSound) :
    (work.respond d).state.IsSound := by
  obtain ⟨-, -, hdesk⟩ := hwork.respond hopen hk
  have hafter := hwork.sound d.desk hsound
  rw [← hdesk] at hafter
  exact hafter

namespace Derivation

section

variable [Engine]

/-! ## One context -/

/-- The working repository is open, and its client keeps to the context of a pass.  There are at
least `n` clients. -/
structure Confined (scope : Scope) (n : Nat) (d : Depot) : Prop where
  opened : d.WorkingOpen
  sound : d.IsSound
  within : d.desk.Within scope.context scope.working.number
  clients : n ≤ d.desk.repositories.length

section

variable {scope : Scope} {n : Nat} {writes : List Write}

omit [Engine] in
theorem Confined.respond {d : Depot} {work : Depot.Work α} {call : Desk → Except Fault α × Desk}
    (hd : Confined scope n d) (hwork : Depot.Decides scope.working.number work call)
    (hwithin : (call d.desk).2.Within scope.context scope.working.number) :
    Confined scope n (work.respond d).state := by
  obtain ⟨-, hopen, hdesk⟩ := hwork.respond hd.opened hd.within.client
  refine ⟨hopen, hwork.sound_respond hd.opened hd.within.client hd.sound, hdesk ▸ hwithin, ?_⟩
  rw [hdesk, hwork.repositories]
  exact hd.clients

omit [Engine] in
theorem Confined.mono {d : Depot} {m : Nat} (hd : Confined scope n d) (hm : m ≤ n) :
    Confined scope m d :=
  ⟨hd.opened, hd.sound, hd.within, hm.trans hd.clients⟩

/-- The client of a vacant working repository is a new one. -/
theorem confined_openWorking {d : Depot} (hd : d.IsVacant) (hsound : d.IsSound) (context : String)
    {k : ClientId} (target : ClientId) (hresult : (Backend.openWorking d).result = .ok k) :
    k.number = d.clients.length ∧
      Confined ⟨context, k, target⟩ d.clients.length (Backend.openWorking d).state := by
  obtain ⟨-, rfl, hopen, hdesk⟩ := (Depot.ends_openWorking hd).of_ok hresult
  have hjoin : d.openingDesk.join.2.Within context d.clients.length :=
    Desk.within_join (d := d.openingDesk) rfl
  have hopened : (Backend.openWorking d).state.desk.IsSound := by
    rw [hdesk]
    exact hsound
  refine ⟨rfl, hopen, hopened, hdesk ▸ hjoin, ?_⟩
  rw [hdesk]
  simp [Desk.join, Desk.repositories, Depot.openingDesk, Depot.desk]

/-- What a pass asks of the working repository stays in its context. -/
theorem Confined.consults {d : Depot} {q : Question} (hd : Confined scope n d)
    (hwrites : ∀ w ∈ writes, w.isAddData = true → w.context = scope.context)
    (hq : Consults scope writes q) : Confined scope n (q.after d) := by
  cases hq with
  | replays hwrite hdata =>
    exact hd.respond (Depot.decides_write _ _ _) (hd.within.write (hwrites _ hwrite hdata))
  | types hname => exact hd.respond (Depot.decides_write _ _ _) (hd.within.write rfl)
  | commits => exact hd.respond (Depot.decides_commit _) hd.within.commit
  | selects text =>
    exact hd.respond (Depot.decides_query _ Depot.rowsOf text) (hd.within.query _ text)
  | asks text =>
    exact hd.respond (Depot.decides_query _ Depot.verdictOf text) (hd.within.query _ text)

theorem Confined.target {d : Depot} (hd : Confined scope n d)
    (hother : scope.working.number ≠ scope.target.number) (w : Write) :
    Confined scope n (Backend.act d scope.target (.write w)).state :=
  hd.respond (Depot.decides_write _ _ w) (hd.within.write_other hother w)

theorem keeps_confined (hother : scope.working.number ≠ scope.target.number)
    (hwrites : ∀ w ∈ writes, w.isAddData = true → w.context = scope.context) :
    Keeps (S := Recorded Depot) scope writes (fun p => Confined scope n p.outside.stores.stores)
      (fun p => Confined scope n p.outside.stores.stores) := by
  refine keeps_stores (P := fun r : Recorded Depot => Confined scope n r.stores)
    (fun hq r hr => ?_) fun w r hr => hr.target hother w
  rw [Recorded.stores_after]
  exact hr.consults hwrites hq

/-- The working repository is open and has no quads. -/
structure Cleaned (scope : Scope) (n : Nat) (d : Depot) : Prop where
  opened : d.WorkingOpen
  sound : d.IsSound
  client : d.desk.repositories[scope.working.number]? = some Depot.working
  quads : d.desk.quads = []
  clients : n ≤ d.desk.repositories.length

omit [Engine] in
/-- A question that a desk answers without a fault. -/
theorem ensures_answer {P Q : Depot → Prop} {work : Depot.Work α}
    {call : Desk → Except Fault α × Desk} {k : Nat} (hwork : Depot.Decides k work call)
    (q : Question)
    (hopen : ∀ d, P d → d.WorkingOpen ∧ d.desk.repositories[k]? = some Depot.working)
    (hanswer : ∀ d, P d → (call d.desk).1.isOk = true)
    (hsound : ∀ d, P d → d.IsSound)
    (hafter : ∀ d e : Depot, P d → e.WorkingOpen → e.IsSound → e.desk = (call d.desk).2 → Q e) :
    Ensures (fun o : Outside (Recorded Depot) => P o.stores.stores)
      (Job.call fun r => r.put q work.respond) (fun _ o => Q o.stores.stores)
      (fun _ _ => False) := by
  refine Job.ensures_call (P := fun r : Recorded Depot => P r.stores)
    (Q := fun _ r => Q r.stores) (E := fun _ _ => False) (fun r a hr _ => ?_)
    fun r f hr hfault => ?_
  · obtain ⟨hopened, hk⟩ := hopen r.stores hr
    obtain ⟨-, hopen', hdesk⟩ := hwork.respond hopened hk
    exact hafter r.stores _ hr hopen' (hwork.sound_respond hopened hk (hsound r.stores hr)) hdesk
  · obtain ⟨hopened, hk⟩ := hopen r.stores hr
    obtain ⟨hresult, -⟩ := hwork.respond hopened hk
    have hok := hanswer r.stores hr
    rw [← hresult] at hok
    change (work.respond r.stores).result = .error f at hfault
    rw [hfault] at hok
    contradiction

/-- However far a pass has come, cleaning does not fail and leaves no quads. -/
theorem ensures_cleaned (scope : Scope) (hcontext : Iri.isAbsolute scope.context.toList = true) :
    Ensures (fun o : Outside (Recorded Depot) => Confined scope n o.stores.stores) (clean scope)
      (fun _ o => Cleaned scope n o.stores.stores) (fun _ _ => False) := by
  -- a failed step may have left staged changes, which the commit applies before the clearing
  have hwrite := ensures_answer (P := Confined scope n)
    (Q := fun e => Confined scope n e ∧ (e.desk.commit scope.working.number).2.quads = [])
    (Depot.decides_write scope.working.number scope.working.number (.clear scope.context))
    (.act scope.working (.write (.clear scope.context)))
    (fun d hd => ⟨hd.opened, hd.within.client⟩)
    (fun d hd => by rw [(hd.within.write_clear hd.sound hcontext).1]; rfl) (fun d hd => hd.sound)
    fun d e hd hopen hsound hdesk => by
      refine ⟨⟨hopen, hsound, hdesk ▸ hd.within.write rfl, ?_⟩, ?_⟩
      · rw [hdesk, Desk.repositories_write]
        exact hd.clients
      · rw [hdesk]
        exact (hd.within.write_clear hd.sound hcontext).2
  have hcommit := ensures_answer (Q := Cleaned scope n)
    (Depot.decides_commit scope.working.number) (.act scope.working .commit)
    (P := fun d => Confined scope n d ∧ (d.desk.commit scope.working.number).2.quads = [])
    (fun d hd => ⟨hd.1.opened, hd.1.within.client⟩)
    (fun d hd => by rw [Desk.result_commit (d := d.desk) hd.1.sound]; rfl) (fun d hd => hd.1.sound)
    fun d e hd hopen hsound hdesk => by
      refine ⟨hopen, hsound, ?_, hdesk ▸ hd.2, ?_⟩ <;> rw [hdesk, Desk.repositories_commit]
      · exact hd.1.within.client
      · exact hd.1.clients
  have hdisconnect := ensures_answer (P := Cleaned scope n) (Q := Cleaned scope n)
    (Depot.decides_disconnect scope.working.number) (.act scope.working .disconnect)
    (fun d hd => ⟨hd.opened, hd.client⟩) (fun _ _ => rfl) (fun d hd => hd.sound)
    fun d e hd hopen hsound hdesk => by
      refine ⟨hopen, hsound, ?_, hdesk ▸ hd.quads, ?_⟩ <;> rw [hdesk, Desk.repositories_disconnect]
      · exact hd.client
      · exact hd.clients
  unfold clean
  refine Job.ensures_relabel ?_
  exact hwrite.bind fun _ => hcommit.bind fun _ => hdisconnect

end

theorem shutDownWorking_apply {d : Depot} (hd : d.WorkingOpen) (hsound : d.IsSound) :
    (Backend.shutDownWorking d).result = .ok () ∧
      (Backend.shutDownWorking d).state = d.setOpened Depot.working none := by
  obtain ⟨records, hshut⟩ := Depot.shutDown_apply (s := (d, [])) hd.isOpen
  rw [hsound.2.unflushed?, hsound.2.shut_eq] at hshut
  have hresponse : Backend.shutDownWorking d =
      ⟨.ok (), d.setOpened Depot.working none, records⟩ := by
    change (Depot.shutDown Depot.working).respond d = _
    simp only [respond, ExceptT.run, hshut]
  rw [hresponse]
  exact ⟨rfl, rfl⟩

/-! ## Two runs -/

/-- Two runs have the same desk before them, and have had the target do the same. -/
structure AtOneDesk (working target : ClientId) (o o' : Outside (Recorded Depot)) : Prop where
  here : o.stores.stores.WorkingOpen
  there : o'.stores.stores.WorkingOpen
  sound : o.stores.stores.IsSound
  client : o.stores.stores.desk.repositories[working.number]? = some Depot.working
  desk : o.stores.stores.desk = o'.stores.stores.desk
  calls : o.stores.calls target = o'.stores.calls target

section

variable {working target : ClientId}

omit [Engine] in
/-- What a desk decides is decided alike in both runs. -/
theorem agree_decides {work : Depot.Work α} {call : Desk → Except Fault α × Desk}
    (hwork : Depot.Decides working.number work call) (q : Question) :
    Agree (AtOneDesk working target) Eq (Job.call fun r : Recorded Depot => r.put q work.respond)
      (Job.call fun r : Recorded Depot => r.put q work.respond) := by
  intro o o' ho
  obtain ⟨hresult, hopen, hdesk⟩ := hwork.respond ho.here ho.client
  obtain ⟨hresult', hopen', hdesk'⟩ := hwork.respond ho.there (ho.desk ▸ ho.client)
  have hsame : (work.respond o.stores.stores).result = (work.respond o'.stores.stores).result := by
    rw [hresult, hresult', ho.desk]
  have hcalls := Recorded.calls_put_congr (q := q) ho.calls hsame
  have hstates : ∀ log log', AtOneDesk working target ⟨(o.stores.put q work.respond).state, log⟩
      ⟨(o'.stores.put q work.respond).state, log'⟩ := by
    intro log log'
    refine ⟨hopen, hopen', hwork.sound_respond ho.here ho.client ho.sound, ?_, ?_, hcalls⟩
    · change (work.respond o.stores.stores).state.desk.repositories[working.number]? = _
      rw [hdesk, hwork.repositories]
      exact ho.client
    · change (work.respond o.stores.stores).state.desk = (work.respond o'.stores.stores).state.desk
      rw [hdesk, hdesk', ho.desk]
  rw [Job.call_apply, Job.call_apply]
  change EndAlike _ _ ((work.respond o.stores.stores).result, _)
    ((work.respond o'.stores.stores).result, _)
  rw [← hsame]
  cases (work.respond o.stores.stores).result with
  | ok a => exact .returns ⟨rfl, hstates _ _⟩
  | error f => exact .fails (hstates _ _)

theorem parallel_atOneDesk (context : String) :
    Parallel (AtOneDesk working target) ⟨context, working, target⟩ ⟨context, working, target⟩ where
  context := rfl
  note := fun _ _ ho => ⟨ho.here, ho.there, ho.sound, ho.client, ho.desk, ho.calls⟩
  target := fun w => agree_decides (Depot.decides_write _ target.number w) (.act target (.write w))
  write := fun w => agree_decides (Depot.decides_write _ _ w) (.act working (.write w))
  commit := agree_decides (Depot.decides_commit _) (.act working .commit)
  disconnect := agree_decides (Depot.decides_disconnect _) (.act working .disconnect)
  select := fun text =>
    agree_decides (Depot.decides_query _ Depot.rowsOf text) (.select working text)
  ask := fun text =>
    agree_decides (Depot.decides_query _ Depot.verdictOf text) (.ask working text)

/-- What two runs may differ in when they have ended is the working repository and the log. -/
def EndedAlike (target : ClientId) (o o' : Outside (Recorded Depot)) : Prop :=
  o.stores.calls target = o'.stores.calls target ∧
    o.stores.stores.clients = o'.stores.stores.clients

/-- The second run begins with a working repository that was made anew. -/
structure Renewed (target : ClientId) (o o' : Outside (Recorded Depot)) : Prop where
  vacant : o.stores.stores.IsVacant
  sound : o.stores.stores.IsSound
  stores : o'.stores.stores = o.stores.stores.renewed
  calls : o.stores.calls target = o'.stores.calls target

/-- The working repository is opened alike, or fails to open alike. -/
theorem relates_openWorking : Relates (Renewed target)
    (Job.call Backend.openWorking : Job (Recorded Depot) ClientId) (Job.call Backend.openWorking)
    (fun working working' o o' => working = working' ∧ AtOneDesk working target o o')
    (EndedAlike target) := by
  intro o o' ho
  have hends := Depot.ends_openWorking ho.vacant
  have hends' := Depot.ends_openWorking ho.vacant.renewed
  -- opening looks at the path and the files only, so it ends in both runs in the same way
  have hopening := Depot.opening_renewed o.stores.stores
  have hsame : o.stores.stores.renewed.openingDesk = o.stores.stores.openingDesk := by
    rw [Depot.openingDesk, hopening]
    rfl
  have hclients : o'.stores.stores.clients = o.stores.stores.clients := by
    rw [ho.stores]
    rfl
  rw [hopening, hsame, ← ho.stores, hclients] at hends'
  rw [Job.call_apply, Job.call_apply]
  change EndAlike _ _ ((Backend.openWorking o.stores.stores).result, _)
    ((Backend.openWorking o'.stores.stores).result, _)
  cases hresult : (Backend.openWorking o.stores.stores).result with
  | ok k =>
    obtain ⟨hopening, rfl, hopen, hdesk⟩ := hends.of_ok hresult
    cases hresult' : (Backend.openWorking o'.stores.stores).result with
    | ok k' =>
      obtain ⟨-, rfl, hopen', hdesk'⟩ := hends'.of_ok hresult'
      have hopened : (Backend.openWorking o.stores.stores).state.desk.IsSound := by
        rw [hdesk]
        exact ho.sound
      refine .returns ⟨rfl, hopen, hopen', hopened, ?_, hdesk.trans hdesk'.symm,
        Recorded.calls_put_congr (q := .openWorking) ho.calls (hresult.trans hresult'.symm)⟩
      change (Backend.openWorking o.stores.stores).state.desk.repositories[_]? = _
      rw [hdesk]
      exact Desk.client_join
    | error f =>
      obtain ⟨hfailed, -⟩ := hends'.of_error hresult'
      rw [hopening] at hfailed
      contradiction
  | error f =>
    obtain ⟨hopening, -, hleft, -⟩ := hends.of_error hresult
    cases hresult' : (Backend.openWorking o'.stores.stores).result with
    | ok k' =>
      obtain ⟨hopened, -⟩ := hends'.of_ok hresult'
      rw [hopening] at hopened
      contradiction
    | error f' =>
      obtain ⟨hopening', -, hleft', -⟩ := hends'.of_error hresult'
      obtain rfl : f = f' := Except.error.inj (hopening.symm.trans hopening')
      exact .fails ⟨Recorded.calls_put_congr (q := .openWorking) ho.calls
        (hresult.trans hresult'.symm), hleft.trans hleft'.symm⟩

theorem relates_shutDownWorking : Relates (AtOneDesk working target)
    (Job.call Backend.shutDownWorking : Job (Recorded Depot) Unit)
    (Job.call Backend.shutDownWorking)
    (fun a b o o' => a = b ∧ EndedAlike target o o') (EndedAlike target) := by
  intro o o' ho
  have hsound : o'.stores.stores.desk.IsSound := ho.desk ▸ ho.sound
  obtain ⟨hresult, hstate⟩ := shutDownWorking_apply ho.here ho.sound
  obtain ⟨hresult', hstate'⟩ := shutDownWorking_apply ho.there hsound
  have hcalls := Recorded.calls_put_congr (q := .shutDownWorking) ho.calls
    (hresult.trans hresult'.symm)
  rw [Job.call_apply, Job.call_apply]
  change EndAlike _ _ ((Backend.shutDownWorking o.stores.stores).result, _)
    ((Backend.shutDownWorking o'.stores.stores).result, _)
  rw [hresult, hresult']
  refine .returns ⟨rfl, hcalls, ?_⟩
  change (Backend.shutDownWorking o.stores.stores).state.clients =
    (Backend.shutDownWorking o'.stores.stores).state.clients
  rw [hstate, hstate']
  exact congrArg Desk.clients ho.desk

end

/-! ## Sequences -/

/-- The working repository is vacant, and there are at least `n` clients. -/
structure Left (n : Nat) (d : Depot) : Prop where
  vacant : d.IsVacant
  sound : d.IsSound
  clients : n ≤ d.clients.length

theorem Cleaned.left {scope : Scope} {n : Nat} {d : Depot} (hd : Cleaned scope n d) :
    Left n (Backend.shutDownWorking d).state := by
  obtain ⟨-, hstate⟩ := shutDownWorking_apply hd.opened hd.sound
  rw [hstate]
  refine ⟨hd.opened.isVacant_closed hd.quads, hd.sound, ?_⟩
  simpa [Desk.repositories, Depot.desk, Depot.setOpened] using hd.clients

/-- A derivation leaves the working repository vacant, also when it fails. -/
theorem ensures_left {target : ClientId} {context : String} {writes : List Write} {n : Nat}
    (htarget : target.number < n) (hcontext : Iri.isAbsolute context.toList = true)
    (hwrites : ∀ w ∈ writes, w.isAddData = true → w.context = context) :
    Ensures (fun o : Outside (Recorded Depot) => Left n o.stores.stores) (run target context writes)
      (fun _ o => Left n o.stores.stores) (fun _ o => Left n o.stores.stores) := by
  refine (ensures_run (S := Recorded Depot) target context writes
    (P := fun r => Left n r.stores) (F := fun r => Left n r.stores) (L := fun _ => False)
    (B := fun working r => working.number ≠ target.number ∧
      Confined ⟨context, working, target⟩ n r.stores)
    (D := fun working _ _ r => Confined ⟨context, working, target⟩ n r.stores)
    (C := fun working _ _ r => Cleaned ⟨context, working, target⟩ n r.stores)
    (R := fun _ _ r => Left n r.stores) ?_ ?_ ?_ ?_ (fun _ h => h)).mono (fun _ h => h)
      (fun _ _ h => h.2) ?_
  · intro r hr
    cases hresult : (Backend.openWorking r).result with
    | ok working =>
      obtain ⟨hworking, hconfined⟩ := confined_openWorking hr.vacant hr.sound context target hresult
      have hlarge := hr.clients
      -- the client of the working repository is a new one, and the target is an old one
      exact ⟨by omega, hconfined.mono hlarge⟩
    | error f =>
      obtain ⟨-, hleft, hclients, hfailures, hflushes⟩ :=
        (Depot.ends_openWorking hr.vacant).of_error hresult
      exact ⟨hleft, ⟨hfailures.trans hr.sound.1, hflushes.trans hr.sound.2⟩,
        hr.clients.trans (congrArg List.length hclients).ge⟩
  · rintro working p ⟨hother, hp⟩
    exact (keeps_confined hother hwrites).upholds.pass _ hp
  · intro working derived found
    exact (ensures_cleaned ⟨context, working, target⟩ hcontext).mono (fun _ h => h)
      (fun _ _ h => h) fun _ _ h => h.elim
  · intro working derived found r hr
    refine ⟨hr.left, fun f hfault => ?_⟩
    obtain ⟨hresult, -⟩ := shutDownWorking_apply hr.opened hr.sound
    change (Backend.shutDownWorking r.stores).result = .error f at hfault
    rw [hresult] at hfault
    contradiction
  · rintro f o (h | ⟨derived, found, -, h⟩)
    · exact h
    · exact h

/-- A derivation that is asked for. -/
structure Request where
  target : ClientId
  context : String
  writes : List Write

namespace Request

def run (q : Request) : Job (Recorded Depot) Report :=
  Derivation.run q.target q.context q.writes

/-- The target is one of the first `n` clients, the name of the context that is described is an
absolute IRI, and the documents are for this context. -/
structure WellFormed (n : Nat) (q : Request) : Prop where
  target : q.target.number < n
  context : Iri.isAbsolute q.context.toList = true
  documents : ∀ w ∈ q.writes, w.isAddData = true → w.context = q.context

end Request

/-- What is left when some derivations have been run one after another. -/
def runAll (requests : List Request) (o : Outside (Recorded Depot)) : Outside (Recorded Depot) :=
  requests.foldl (fun o q => (q.run o).2) o

/-- The same, with a working repository that was made anew. -/
def renewed (o : Outside (Recorded Depot)) : Outside (Recorded Depot) :=
  { o with stores := { o.stores with stores := o.stores.stores.renewed } }

/-- A derivation leaves no quads in the working repository, and it does what it would do with a
working repository that was made anew. -/
structure Undisturbed (q : Request) (o : Outside (Recorded Depot)) : Prop where
  vacant : (q.run o).2.stores.stores.IsVacant
  /-- If the working repository can be opened and counted, no quads are found. -/
  size : ∀ n, ((Depot.size Depot.working).respond (q.run o).2.stores.stores).result = .ok n → n = 0
  /-- It returns the same report, or the same fault. -/
  result : (q.run o).1 = (q.run (renewed o)).1
  /-- It has the target do the same, and this is accepted and refused alike. -/
  calls : (q.run o).2.stores.calls q.target = (q.run (renewed o)).2.stores.calls q.target
  staged : ((q.run o).2.stores.stores.client q.target.number).staged =
    ((q.run (renewed o)).2.stores.stores.client q.target.number).staged

section

variable {n : Nat} {q : Request} {o : Outside (Recorded Depot)}

theorem left_request (hq : q.WellFormed n) (ho : Left n o.stores.stores) :
    Left n (q.run o).2.stores.stores := by
  have hends := ensures_left hq.target hq.context hq.documents o ho
  unfold Request.run
  generalize run q.target q.context q.writes o = done at hends ⊢
  cases hends with
  | returns h => exact h
  | fails h => exact h

theorem left_runAll {requests : List Request} (hrequests : ∀ p ∈ requests, p.WellFormed n)
    (ho : Left n o.stores.stores) : Left n (runAll requests o).stores.stores := by
  induction requests generalizing o with
  | nil => exact ho
  | cons p rest ih =>
    have hp := left_request (hrequests p List.mem_cons_self) ho
    exact ih (fun p hp => hrequests p (List.mem_cons_of_mem _ hp)) hp

theorem undisturbed_of_left (hq : q.WellFormed n) (ho : Left n o.stores.stores) :
    Undisturbed q o := by
  have hleft := left_request hq ho
  have hends : EndAlike (fun a b o o' => a = b ∧ EndedAlike q.target o o') (EndedAlike q.target)
      (q.run o) (q.run (renewed o)) :=
    relates_run (V := Eq) (R := fun working _ => AtOneDesk working q.target) q.context q.writes
      (fun _ _ h => ⟨h.vacant, h.sound, h.stores, h.calls⟩) (fun _ _ h => h) relates_openWorking
      (fun working _ _ => by subst working; exact parallel_atOneDesk q.context)
      (fun _ _ _ => relates_shutDownWorking) o (renewed o)
      ⟨ho.vacant, ho.sound, rfl, rfl⟩
  obtain ⟨hcalls, hclients⟩ := hends.states
  refine ⟨hleft.vacant, fun n hn => Depot.size_of_isVacant hleft.vacant hn,
    hends.result_eq fun _ _ _ _ h => h.1, hcalls, ?_⟩
  rw [Depot.client, Depot.client, hclients]

end

/-- Derivations do not influence each other.  If the working repository is vacant in the beginning
and the store itself does not fail, then in every sequence of derivations, of which some may fail,
each one leaves it without quads and does what it would do with a working repository that was made
anew. -/
theorem sequence_undisturbed (o : Outside (Recorded Depot)) (earlier : List Request) (q : Request)
    (hvacant : o.stores.stores.IsVacant) (hsound : o.stores.stores.IsSound)
    (hrequests : ∀ p ∈ earlier ++ [q], p.WellFormed o.stores.stores.clients.length) :
    Undisturbed q (runAll earlier o) := by
  have hearlier : ∀ p ∈ earlier, p.WellFormed o.stores.stores.clients.length :=
    fun p hp => hrequests p (List.mem_append_left _ hp)
  have hq := hrequests q (List.mem_append_right _ (List.mem_singleton.mpr rfl))
  exact undisturbed_of_left hq (left_runAll hearlier ⟨hvacant, hsound, Nat.le_refl _⟩)

end

/-- A working repository in a directory that is still to be made, one client, and a document with a
triple. -/
def untouched : Recorded Depot where
  stores :=
    { files := Files.bare.putDocument ["current", "a.ttl"] "<urn:s> <urn:p> <urn:o> .".toUTF8.toList
      repositories := [⟨"main", none, none⟩, ⟨"working", some "data/working", none⟩]
      clients := [{ repository := Depot.main }] }

/-- The description of a service in a context, of which the document is perhaps not there. -/
def describe (context url : String) : Request :=
  ⟨⟨0⟩, context, [.addData url context context]⟩

section

attribute [local instance] Engine.small

/-- A derivation whose document has a triple to be staged, one whose document is missing, and then
another one with a triple. -/
theorem sequence_undisturbed_missing :
    (untouched.stores.changes (.addData "a.ttl" "urn:a" "urn:a")).toOption =
      some ([.insert ⟨some "urn:a", .iri "urn:s", .iri "urn:p", .iri "urn:o"⟩], 0) ∧
    untouched.stores.IsVacant ∧ untouched.stores.IsSound ∧
    (∀ p ∈ [describe "urn:a" "a.ttl", describe "urn:b" "missing.ttl"] ++ [describe "urn:c" "a.ttl"],
      p.WellFormed untouched.stores.clients.length) ∧
    Undisturbed (describe "urn:c" "a.ttl")
      (runAll [describe "urn:a" "a.ttl", describe "urn:b" "missing.ttl"]
        ⟨untouched, default⟩) := by
  have hvacant : untouched.stores.IsVacant :=
    .closed (by decide) rfl fun _ _ => rfl
  have hrequests : ∀ p ∈ [describe "urn:a" "a.ttl", describe "urn:b" "missing.ttl"] ++
      [describe "urn:c" "a.ttl"], p.WellFormed untouched.stores.clients.length := by
    intro p hp
    simp only [List.cons_append, List.nil_append, List.mem_cons, List.not_mem_nil, or_false] at hp
    rcases hp with rfl | rfl | rfl <;>
      exact ⟨by decide, by decide, by simp [describe, Write.context]⟩
  exact ⟨by decide +kernel, hvacant, ⟨rfl, rfl⟩, hrequests,
    sequence_undisturbed ⟨untouched, default⟩ _ _ hvacant ⟨rfl, rfl⟩ hrequests⟩

end

end Derivation

end GraphCommit
