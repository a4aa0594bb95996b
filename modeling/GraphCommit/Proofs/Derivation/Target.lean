import GraphCommit.Proofs.Derivation.Named
import GraphCommit.Proofs.Derivation.Pass
import GraphCommit.Proofs.Scripted

/-!
# What a derivation writes to its target

A pass has its target do nothing but write triples, the four of one transformation after those of
another (`Course`).  Each of the four is checked by itself.  When the target refuses one, the pass
ends there, and those that were accepted before it stay staged.

So a derivation that returns has described every transformation completely, with the triples in
order.  One that fails may leave one transformation that has a type but lacks its input, its output
or its service: this is so if and only if the target has refused to write one of these
(`describes_unless_refused`).
-/

namespace GraphCommit

variable {S : Type}

/-- The call of a client that an entry is about, with whether it was answered. -/
def Entry.call? (k : ClientId) (e : Entry S) : Option (Question × Bool) :=
  if e.question.client? = some k then some (e.question, e.answered) else none

namespace Recorded

/-- The calls of a client, the oldest first, each with whether it was answered and not refused. -/
def calls (k : ClientId) (r : Recorded S) : List (Question × Bool) :=
  r.history.filterMap (Entry.call? k)

variable [Backend S] {k : ClientId} {q : Question}

theorem calls_after_of_eq (hq : q.client? = some k) (r : Recorded S) :
    (q.after r).calls k = r.calls k ++ [(q, q.isAnswered r.stores)] := by
  simp [calls, history_after, Entry.call?, hq]

theorem calls_after_of_ne (hq : q.client? ≠ some k) (r : Recorded S) :
    (q.after r).calls k = r.calls k := by
  simp [calls, history_after, Entry.call?, hq]

end Recorded

namespace Derivation

open Effect

/-! ## The calls of the target -/

/-- The call by which a triple is written to the target. -/
def writing (target : ClientId) (context : String) (triple : Triple) : Question :=
  .act target (.write (.addTriple triple context))

/-- The calls by which a transformation is described. -/
def describing (target : ClientId) (context : String) (t : Transformation) :
    List (Question × Bool) :=
  t.triples.map fun triple => (writing target context triple, true)

/-- What a pass has the target do: whole transformations, and after these perhaps one that the
target refused to take further. -/
inductive Course (target : ClientId) (context : String) (done : List Finding) :
    List (Question × Bool) → Prop
  | whole : Course target context done ((named done).flatMap (describing target context))
  | broken {f : Finding} {accepted rest : List Triple} {refused : Triple}
      (htriples : (f.after done).triples = accepted ++ refused :: rest) :
      Course target context done ((named done).flatMap (describing target context) ++
        (accepted.map fun triple => (writing target context triple, true)) ++
        [(writing target context refused, false)])

/-- A pass has found some transformations and has described them completely. -/
structure Reached (scope : Scope) (earlier : List (Question × Bool)) (done : List Finding)
    (p : Pass (Recorded S)) : Prop where
  found : p.found = named done
  counter : ∀ service, p.counter.count service = numberOf service done
  calls : p.outside.stores.calls scope.target =
    earlier ++ (named done).flatMap (describing scope.target scope.context)

/-- A pass has described some transformations, the last one perhaps incompletely. -/
def Stopped (scope : Scope) (earlier : List (Question × Bool)) (p : Pass (Recorded S)) : Prop :=
  ∃ done calls, Course scope.target scope.context done calls ∧
    p.outside.stores.calls scope.target = earlier ++ calls

section

variable [Backend S] {scope : Scope} {earlier : List (Question × Bool)} {done : List Finding}

omit [Backend S] in
theorem Reached.stopped {p : Pass (Recorded S)} (hp : Reached scope earlier done p) :
    Stopped scope earlier p :=
  ⟨done, _, .whole, hp.calls⟩

/-- The target is given one triple, which it accepts or refuses. -/
theorem ensures_writing (target : ClientId) (context : String) (triple : Triple)
    (calls : List (Question × Bool)) :
    Ensures (fun o : Outside (Recorded S) => o.stores.calls target = calls)
      (target.write (.addTriple triple context))
      (fun _ o => o.stores.calls target = calls ++ [(writing target context triple, true)])
      (fun _ o => o.stores.calls target = calls ++ [(writing target context triple, false)]) := by
  have hafter : ∀ r : Recorded S, (Backend.act r target (.write (.addTriple triple context))).state
      = (writing target context triple).after r := fun _ => rfl
  have hanswered : ∀ r : Recorded S, (writing target context triple).isAnswered r.stores =
      (Backend.act r target (.write (.addTriple triple context))).result.isOk := fun _ => rfl
  unfold ClientId.write ClientId.act
  refine Job.ensures_call (P := fun r : Recorded S => r.calls target = calls)
    (Q := fun _ r => r.calls target = calls ++ [(writing target context triple, true)])
    (E := fun _ r => r.calls target = calls ++ [(writing target context triple, false)])
    (fun r a hr hresult => ?_) fun r f hr hresult => ?_
  · rw [hafter, Recorded.calls_after_of_eq rfl, hanswered, hresult, hr]
    rfl
  · rw [hafter, Recorded.calls_after_of_eq rfl, hanswered, hresult, hr]
    rfl

/-- A transformation is being described: it has its number, and some of its triples are accepted. -/
structure InProgress (scope : Scope) (earlier : List (Question × Bool)) (done : List Finding)
    (f : Finding) (accepted : List Triple) (p : Pass (Recorded S)) : Prop where
  found : p.found = named done
  counter : ∀ service, p.counter.count service = numberOf service (done ++ [f])
  calls : p.outside.stores.calls scope.target =
    earlier ++ ((named done).flatMap (describing scope.target scope.context) ++
      accepted.map fun triple => (writing scope.target scope.context triple, true))

theorem ensures_triple {f : Finding} {accepted rest : List Triple} {triple : Triple}
    (htriples : (f.after done).triples = accepted ++ triple :: rest) :
    Ensures (InProgress scope earlier done f accepted)
      (Step.job (scope.target.write (.addTriple triple scope.context)) : Step (Recorded S) Unit)
      (fun _ => InProgress scope earlier done f (accepted ++ [triple]))
      (fun _ => Stopped scope earlier) := by
  refine ensures_job fun p hp => ?_
  refine (ensures_writing scope.target scope.context triple _ p.outside rfl).mono ?_ ?_
  · intro _ o ho
    refine ⟨hp.found, hp.counter, ?_⟩
    change o.stores.calls scope.target = _
    rw [ho, hp.calls]
    simp
  · intro _ o ho
    refine ⟨done, _, .broken htriples, ?_⟩
    change o.stores.calls scope.target = _
    rw [ho, hp.calls]
    simp

/-- A transformation gets the next number of its service.  Its triples are written in order, up to
one that the target refuses. -/
theorem ensures_record (service input output : String) :
    Ensures (Reached scope earlier done)
      (record scope service input output : Step (Recorded S) Unit)
      (fun _ => Reached scope earlier (done ++ [⟨service, input, output⟩]))
      (fun _ => Stopped scope earlier) := by
  unfold record
  refine ensures_get.bind fun q => ?_
  refine Ensures.mono (P := fun s => (∀ other, q.counter.count other = numberOf other done) ∧
    Reached scope earlier done s) ?_ ?_ (fun _ _ h => h) fun _ _ h => h
  · refine Ensures.of_and fun hcounter => ?_
    obtain ⟨hnumber, hnext⟩ := Counter.next_numbers hcounter ⟨service, input, output⟩
    generalize q.counter.next service = next at hnumber hnext
    obtain ⟨number, counter⟩ := next
    obtain rfl : number = numberOf service done + 1 := hnumber
    dsimp only at hnext ⊢
    refine (ensures_modify (R := InProgress scope earlier done ⟨service, input, output⟩ [])
      fun p hp => ⟨hp.found, hnext, by simpa using hp.calls⟩).bind fun _ => ?_
    refine Ensures.bind (Q := fun _ => InProgress scope earlier done ⟨service, input, output⟩
      (Finding.after done ⟨service, input, output⟩).triples)
      (ensures_forM fun accepted triple rest htriples => ensures_triple htriples) fun _ => ?_
    refine Ensures.bind (ensures_job (Q := fun _ => InProgress scope earlier done
      ⟨service, input, output⟩ (Finding.after done ⟨service, input, output⟩).triples)
      fun p hp => .returns ⟨hp.found, hp.counter, hp.calls⟩) fun _ => ?_
    refine ensures_modify fun p hp => ⟨?_, hp.counter, ?_⟩
    · rw [hp.found, named_concat]
      rfl
    · rw [hp.calls, named_concat]
      simp [describing]
  · rintro p ⟨rfl, hp⟩
    exact ⟨hp.counter, hp⟩

variable {writes : List Write}

/-- The working repository has a client of its own, so what it is asked is no call of the target. -/
theorem keeps_reached (hother : scope.working ≠ scope.target) :
    Keeps scope writes (fun p : Pass (Recorded S) => ∃ done, Reached scope earlier done p)
      (Stopped scope earlier) where
  consults := by
    rintro q hq p log ⟨done, hp⟩
    refine ⟨done, hp.found, hp.counter, ?_⟩
    have hclient : q.client? ≠ some scope.target := by
      rw [hq.client_eq]
      exact fun heq => hother (Option.some.inj heq)
    exact (Recorded.calls_after_of_ne hclient _).trans hp.calls
  notes := fun p log ⟨done, hp⟩ => ⟨done, hp.found, hp.counter, hp.calls⟩
  types := fun p class_ ⟨done, hp⟩ => ⟨done, hp.found, hp.counter, hp.calls⟩
  records := fun service input output p ⟨done, hp⟩ =>
    (ensures_record service input output p hp).mono (fun _ _ h => ⟨_, h⟩) fun _ _ h => h
  gives_up := fun p ⟨_, hp⟩ => hp.stopped

/-- What a pass has had the target do when it ends. -/
def Ended (target : ClientId) (context : String) (earlier : List (Question × Bool))
    (derived : Except Fault Unit) (found : List Transformation) (r : Recorded S) : Prop :=
  ∃ done calls, Course target context done calls ∧ r.calls target = earlier ++ calls ∧
    (derived = .ok () → found = named done ∧
      calls = (named done).flatMap (describing target context))

theorem ended_pass {working target : ClientId} {context : String} (hother : working ≠ target)
    {o : Outside (Recorded S)} (hcalls : o.stores.calls target = earlier) :
    EndsIn (fun _ p => Ended target context earlier (.ok ()) p.found p.outside.stores)
      (fun f p => Ended target context earlier (.error f) p.found p.outside.stores)
      (pass ⟨context, working, target⟩ writes { outside := o }) := by
  have hstart : Reached ⟨context, working, target⟩ earlier [] { outside := o } :=
    ⟨rfl, fun _ => rfl, by simpa using hcalls⟩
  refine ((keeps_reached hother).upholds.pass _ ⟨[], hstart⟩).mono ?_ ?_
  · rintro _ p ⟨done, hp⟩
    exact ⟨done, _, .whole, hp.calls, fun _ => ⟨hp.found, rfl⟩⟩
  · rintro f p ⟨done, calls, hcourse, hcalls⟩
    exact ⟨done, calls, hcourse, hcalls, fun hok => by contradiction⟩

/-- A derivation has the target do what its pass does, and nothing else. -/
theorem ended_run (r : Recorded S) (log : Log) (target : ClientId) (context : String)
    (writes : List Write)
    (hother : ∀ working, (Backend.openWorking r.stores).result = .ok working → working ≠ target) :
    EndsIn (fun report o => report.context = context ∧
        Ended target context (r.calls target) (.ok ()) report.transformations o.stores)
      (fun _ o => o.stores.calls target = r.calls target ∨
        ∃ derived found, Ended target context (r.calls target) derived found o.stores)
      (run target context writes ⟨r, log⟩) := by
  -- whoever is asked, as long as it is not the target: all but the pass is of this kind
  have hkeeps : ∀ (q : Question) (s : Recorded S), q.client? ≠ some target →
      ∀ derived found, Ended target context (r.calls target) derived found s →
        Ended target context (r.calls target) derived found (q.after s) := by
    rintro q s hq derived found ⟨done, calls, hcourse, hcalls, hwhole⟩
    exact ⟨done, calls, hcourse, (Recorded.calls_after_of_ne hq s).trans hcalls, hwhole⟩
  refine (ensures_run target context writes
    (P := (· = r)) (F := fun s => s.calls target = r.calls target)
    (B := fun working s => working ≠ target ∧ s.calls target = r.calls target)
    (D := fun working derived found s => working ≠ target ∧
      Ended target context (r.calls target) derived found s)
    (C := fun working derived found s => working ≠ target ∧
      Ended target context (r.calls target) derived found s)
    (R := Ended target context (r.calls target)) (L := fun _ => True) ?_ ?_ ?_ ?_
    (fun _ _ => trivial) ⟨r, log⟩ rfl).mono
      (fun _ _ h => h) ?_
  · rintro s rfl
    have hcalls : (Backend.openWorking s).state.calls target = s.calls target :=
      Recorded.calls_after_of_ne (q := .openWorking) (by simp [Question.client?]) s
    cases hresult : (Backend.openWorking s).result with
    | ok working => exact ⟨hother working hresult, hcalls⟩
    | error f => exact hcalls
  · rintro working o ⟨hworking, hcalls⟩
    exact (ended_pass hworking hcalls).mono (fun _ _ h => ⟨hworking, h⟩) fun _ _ h => ⟨hworking, h⟩
  · intro working derived found
    have hclean : ∀ (q : Question) (s : Recorded S), q.client? = some working →
        working ≠ target ∧ Ended target context (r.calls target) derived found s →
        working ≠ target ∧ Ended target context (r.calls target) derived found (q.after s) := by
      rintro q s hq ⟨hworking, hs⟩
      refine ⟨hworking, hkeeps q s ?_ derived found hs⟩
      rw [hq]
      exact fun heq => hworking (Option.some.inj heq)
    exact ensures_clean (P := fun s : Recorded S => working ≠ target ∧
        Ended target context (r.calls target) derived found s)
      (E := fun s => True ∧ working ≠ target ∧
        Ended target context (r.calls target) derived found s)
      hclean fun q s hq hs _ => ⟨trivial, hclean q s hq hs⟩
  · rintro working derived found s ⟨-, hs⟩
    exact ⟨hkeeps .shutDownWorking s (by simp [Question.client?]) derived found hs,
      fun _ _ => trivial⟩
  · rintro f o (h | ⟨derived, found, -, h⟩)
    · exact Or.inl h
    · exact Or.inr ⟨derived, found, h⟩

end

/-! ## Descriptions -/

/-- The properties by which a transformation is linked to its input, its output and its service. -/
def links : List String := [Vocabulary.fileIn, Vocabulary.fileOut, Vocabulary.performedBy]

section

variable (target : ClientId) (context : String) (calls : List (Question × Bool))

/-- Whether the target has accepted a triple. -/
def Accepts (triple : Triple) : Prop := (writing target context triple, true) ∈ calls

/-- Whether the target has refused a triple. -/
def Refuses (triple : Triple) : Prop := (writing target context triple, false) ∈ calls

/-- Whether a resource is a transformation for those who read what was written. -/
def IsTyped (name : String) : Prop :=
  Accepts target context calls ⟨name, Vocabulary.type, Vocabulary.fileTransformation⟩

/-- Whether a transformation has an input, an output and a service. -/
def IsDescribed (name : String) : Prop :=
  ∀ property ∈ links, ∃ value, Accepts target context calls ⟨name, property, value⟩

/-- How a derivation describes transformations, as far as the target lets it. -/
structure Describes (result : Except Fault Report) : Prop where
  /-- A transformation is described completely unless a link of it was refused. -/
  described : ∀ name, IsTyped target context calls name →
    (IsDescribed target context calls name ↔
      ∀ property ∈ links, ∀ value, ¬ Refuses target context calls ⟨name, property, value⟩)
  /-- The target is asked nothing after a refusal, so this befalls one transformation at most. -/
  refused : ∀ triple, Refuses target context calls triple →
    calls.getLast? = some (writing target context triple, false)
  /-- What is reported was written completely, each transformation after the one before it. -/
  reported : ∀ report, result = .ok report →
    calls = report.transformations.flatMap (describing target context)

end

/-! A triple of a transformation is known by its property. -/

theorem subject_of_mem {t : Transformation} {triple : Triple} (htriple : triple ∈ t.triples) :
    triple.subject = t.name := by
  simp only [Transformation.triples, List.mem_cons, List.not_mem_nil, or_false] at htriple
  rcases htriple with rfl | rfl | rfl | rfl <;> rfl

theorem predicates_triples (t : Transformation) :
    t.triples.map Triple.predicate = Vocabulary.type :: links := rfl

theorem nodup_properties : (Vocabulary.type :: links).Nodup := by decide

/-- Of the triples of a transformation, the one that is refused has not been accepted as well. -/
theorem ne_of_triples {t : Transformation} {accepted rest : List Triple} {refused triple : Triple}
    (htriples : t.triples = accepted ++ refused :: rest) (htriple : triple ∈ accepted) :
    triple.predicate ≠ refused.predicate := by
  have hnodup := nodup_properties
  rw [← predicates_triples t, htriples, List.map_append, List.map_cons, List.nodup_append] at hnodup
  exact hnodup.2.2 _ (List.mem_map_of_mem htriple) _ List.mem_cons_self

theorem exists_link {t : Transformation} {property : String} (hproperty : property ∈ links) :
    ∃ value, (⟨t.name, property, value⟩ : Triple) ∈ t.triples := by
  have hmem : property ∈ t.triples.map Triple.predicate := by
    rw [predicates_triples]
    exact List.mem_cons_of_mem _ hproperty
  obtain ⟨triple, htriple, rfl⟩ := List.mem_map.mp hmem
  refine ⟨triple.object, ?_⟩
  rw [← subject_of_mem htriple]
  exact htriple

section

variable {target : ClientId} {context : String} {done : List Finding}
  {calls : List (Question × Bool)} {triple : Triple}

theorem writing_inj {other : Triple} :
    writing target context triple = writing target context other ↔ triple = other := by
  constructor
  · intro heq
    injection heq with _ haction
    injection haction with hwrite
    injection hwrite
  · rintro rfl
    rfl

theorem mem_describing :
    (writing target context triple, true) ∈ (named done).flatMap (describing target context) ↔
      ∃ t ∈ named done, triple ∈ t.triples := by
  simp [describing, writing_inj]

theorem not_mem_describing :
    (writing target context triple, false) ∉ (named done).flatMap (describing target context) := by
  simp [describing]

/-- Names tell the transformations of a pass apart. -/
theorem name_ne_of_mem {t : Transformation} (f : Finding) (ht : t ∈ named done) :
    t.name ≠ (f.after done).name := by
  have hnodup := nodup_names (done ++ [f])
  rw [named_concat, List.map_append, List.map_singleton, List.nodup_append] at hnodup
  exact hnodup.2.2 _ (List.mem_map_of_mem ht) _ List.mem_cons_self

/-- Transformations with all their triples leave nothing to be refused. -/
theorem describes_whole {result : Except Fault Report}
    (hreported : ∀ report, result = .ok report → report.transformations = named done) :
    Describes target context ((named done).flatMap (describing target context)) result where
  described := by
    intro name htyped
    refine ⟨fun _ property _ value => not_mem_describing, fun _ property hproperty => ?_⟩
    obtain ⟨t, ht, htriple⟩ := mem_describing.mp htyped
    obtain ⟨value, hvalue⟩ := exists_link (t := t) hproperty
    obtain rfl : name = t.name := subject_of_mem htriple
    exact ⟨value, mem_describing.mpr ⟨t, ht, hvalue⟩⟩
  refused := fun triple hrefused => absurd hrefused not_mem_describing
  reported := by
    intro report hresult
    rw [hreported report hresult]

/-- The transformation of which a triple was refused is described up to this triple. -/
theorem describes_broken {f : Finding} {accepted rest : List Triple} {refused : Triple}
    {fault : Fault} (htriples : (f.after done).triples = accepted ++ refused :: rest) :
    Describes target context ((named done).flatMap (describing target context) ++
      (accepted.map fun triple => (writing target context triple, true)) ++
      [(writing target context refused, false)]) (.error fault) := by
  have haccepts : ∀ triple, Accepts target context ((named done).flatMap (describing target context)
      ++ (accepted.map fun triple => (writing target context triple, true)) ++
      [(writing target context refused, false)]) triple ↔
      (∃ t ∈ named done, triple ∈ t.triples) ∨ triple ∈ accepted := by
    intro triple
    rw [Accepts, List.mem_append, List.mem_append, mem_describing]
    simp [writing_inj]
  have hrefuses : ∀ triple, Refuses target context ((named done).flatMap (describing target context)
      ++ (accepted.map fun triple => (writing target context triple, true)) ++
      [(writing target context refused, false)]) triple ↔ triple = refused := by
    intro triple
    rw [Refuses, List.mem_append, List.mem_append, or_iff_right not_mem_describing]
    simp [writing_inj]
  have hsubject : refused.subject = (f.after done).name :=
    subject_of_mem (htriples ▸ List.mem_append_right _ List.mem_cons_self)
  refine ⟨fun name htyped => ?_, fun triple hrefused => ?_, fun report hok => by contradiction⟩
  · constructor
    · intro hdescribed property hproperty value hrefused
      obtain ⟨other, hother⟩ := hdescribed property hproperty
      obtain rfl := (hrefuses _).mp hrefused
      rcases (haccepts _).mp hother with ⟨t, ht, htriple⟩ | htriple
      · exact name_ne_of_mem f ht ((subject_of_mem htriple).symm.trans hsubject)
      · exact ne_of_triples htriples htriple rfl
    · intro hnone property hproperty
      rcases (haccepts _).mp htyped with ⟨t, ht, htriple⟩ | htriple
      · obtain ⟨value, hvalue⟩ := exists_link (t := t) hproperty
        obtain rfl : name = t.name := subject_of_mem htriple
        exact ⟨value, (haccepts _).mpr (Or.inl ⟨t, ht, hvalue⟩)⟩
      -- the type of the last transformation was accepted, so it is a link of it that was refused
      · have hname : name = (f.after done).name :=
          subject_of_mem (htriples ▸ List.mem_append_left _ htriple)
        have hlink : refused.predicate ∈ links := by
          have hmem : refused.predicate ∈ (f.after done).triples.map Triple.predicate := by
            rw [htriples]
            simp
          rw [predicates_triples, List.mem_cons] at hmem
          exact hmem.resolve_left fun heq => ne_of_triples htriples htriple heq.symm
        refine absurd ((hrefuses _).mpr ?_) (hnone _ hlink refused.object)
        rw [hname, ← hsubject]
  · obtain rfl := (hrefuses _).mp hrefused
    simp

end

variable [Backend S]

/-- Whatever the working repository answers and whichever call fails: a transformation whose type
the target has accepted is described completely, unless the target has refused to write its input,
its output or its service. -/
theorem describes_unless_refused (r : Recorded S) (log : Log) (target : ClientId) (context : String)
    (writes : List Write)
    (hother : ∀ working, (Backend.openWorking r.stores).result = .ok working → working ≠ target) :
    ∃ calls, (run target context writes ⟨r, log⟩).2.stores.calls target = r.calls target ++ calls ∧
      Describes target context calls (run target context writes ⟨r, log⟩).1 := by
  have hends := ended_run r log target context writes hother
  generalize run target context writes ⟨r, log⟩ = done at hends
  cases hends with
  | returns h =>
    obtain ⟨-, found, calls, -, hcalls, hwhole⟩ := h
    obtain ⟨hfound, rfl⟩ := hwhole rfl
    refine ⟨_, hcalls, describes_whole fun report hreport => ?_⟩
    obtain rfl := Except.ok.inj hreport
    exact hfound
  | @fails f o h =>
    rcases h with hcalls | ⟨derived, reported, found, calls, hcourse, hcalls, -⟩
    · have hnothing : Describes target context ((named []).flatMap (describing target context))
          (.error f) := describes_whole (by simp)
      exact ⟨[], by rw [hcalls, List.append_nil], hnothing⟩
    · refine ⟨calls, hcalls, ?_⟩
      cases hcourse with
      | whole => exact describes_whole (by simp)
      | broken htriples => exact describes_broken htriples

/-- Stores in whose working repository one service is described.  The input format of the service is
given by a text.  The target takes what looks like an IRI. -/
def describedService (input : String) : Recorded Scripted where
  stores :=
    { working :=
        { selects :=
            [(Queries.servicesInOut "urn:g",
                [Row.ofList [("service", "urn:s"), ("inpuid", input), ("outclass", "urn:C")]]),
             (Queries.formatOfClass "urn:C", [Row.ofList [("outfmt", "urn:png")]])] }
      clients := [(.onCommit, {})] }

/-- A document that describes the service. -/
def oneDocument : List Write := [.addData "urn:d" "urn:b:" "urn:g"]

theorem describes_unless_refused_service :
    (∀ working, (Backend.openWorking (describedService "urn:pdf").stores).result = .ok working →
      working ≠ Scripted.mainClient 0) ∧
    ∃ calls, (run (Scripted.mainClient 0) "urn:g" oneDocument
        ⟨describedService "urn:pdf", default⟩).2.stores.calls (Scripted.mainClient 0) =
        (describedService "urn:pdf").calls (Scripted.mainClient 0) ++ calls ∧
      Describes (Scripted.mainClient 0) "urn:g" calls
        (run (Scripted.mainClient 0) "urn:g" oneDocument ⟨describedService "urn:pdf", default⟩).1 :=
  ⟨Scripted.ne_mainClient_of_openWorking _ 0, describes_unless_refused _ default _ "urn:g"
    oneDocument (Scripted.ne_mainClient_of_openWorking _ 0)⟩

/-- The input format of a service is no IRI.  The target takes the type of the transformation, and
then refuses its input. -/
theorem typed_without_input :
    ¬ ∀ (r : Recorded Scripted) (log : Log) (target : ClientId) (context : String)
      (writes : List Write),
      (∀ working, (Backend.openWorking r.stores).result = .ok working → working ≠ target) →
      ∀ calls, (run target context writes ⟨r, log⟩).2.stores.calls target =
        r.calls target ++ calls →
      ∀ name, IsTyped target context calls name → IsDescribed target context calls name := by
  intro hdescribed
  have hcalls : (run (Scripted.mainClient 0) "urn:g" []
      ⟨describedService "PDF", default⟩).2.stores.calls (Scripted.mainClient 0) =
      [(writing (Scripted.mainClient 0) "urn:g"
          ⟨"urn:sTransformation1", Vocabulary.type, Vocabulary.fileTransformation⟩, true),
       (writing (Scripted.mainClient 0) "urn:g"
          ⟨"urn:sTransformation1", Vocabulary.fileIn, "PDF"⟩, false)] := by
    decide +kernel
  obtain ⟨value, hvalue⟩ := hdescribed (describedService "PDF") default (Scripted.mainClient 0)
    "urn:g" [] (Scripted.ne_mainClient_of_openWorking _ 0) _ hcalls "urn:sTransformation1"
    List.mem_cons_self Vocabulary.fileIn (by decide)
  have hne : Vocabulary.fileIn ≠ Vocabulary.type := by decide
  simp [Accepts, writing_inj, hne] at hvalue

end Derivation

end GraphCommit
