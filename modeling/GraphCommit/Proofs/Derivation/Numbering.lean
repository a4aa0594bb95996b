import GraphCommit.Proofs.Derivation.Named
import GraphCommit.Proofs.Derivation.Pass

/-!
# Numbers of the transformations in a report

However a pass goes through its loops, what it has found so far bears the names that go with it, and
its counter has given out as many numbers of each service as transformations of this service were
found (`Numbered`).  A candidate that is left out changes neither.  A number whose transformation
cannot be written is lost, but then there is no report.

So the names in a report are those of a list of findings (`reports_named`): no two are equal, and
those of one service are numbered from one without a gap (`names_unique_and_gapless`).
-/

namespace GraphCommit.Derivation

open Effect

variable {S : Type} [Backend S] {scope : Scope} {writes : List Write} {done : List Finding}

/-- A pass has found some transformations and has numbered them. -/
structure Numbered (done : List Finding) (p : Pass S) : Prop where
  found : p.found = named done
  counter : ∀ service, p.counter.count service = numberOf service done

/-- A transformation of a pass has its number and is not among those that were found yet. -/
structure Numbering (done : List Finding) (f : Finding) (p : Pass S) : Prop where
  found : p.found = named done
  counter : ∀ service, p.counter.count service = numberOf service (done ++ [f])

/-- A transformation gets the next number of its service.  If it cannot be written, then the pass
fails. -/
theorem ensures_record_numbered (service input output : String) :
    Ensures (Numbered done) (record scope service input output : Step S Unit)
      (fun _ => Numbered (done ++ [⟨service, input, output⟩])) (fun _ _ => True) := by
  unfold record
  refine ensures_get.bind fun q => ?_
  refine Ensures.mono (P := fun p => (∀ other, q.counter.count other = numberOf other done) ∧
    Numbered done p) ?_ ?_ (fun _ _ h => h) fun _ _ h => h
  · refine Ensures.of_and fun hcounter => ?_
    obtain ⟨hnumber, hnext⟩ := Counter.next_numbers hcounter ⟨service, input, output⟩
    generalize q.counter.next service = next at hnumber hnext
    obtain ⟨number, counter⟩ := next
    obtain rfl : number = numberOf service done + 1 := hnumber
    dsimp only at hnext ⊢
    refine (ensures_modify (R := Numbering done ⟨service, input, output⟩)
      fun p hp => ⟨hp.found, hnext⟩).bind fun _ => ?_
    refine (ensures_forM_keeping (I := Numbering done ⟨service, input, output⟩) fun triple _ =>
      ensures_act (fun p hp => ⟨hp.found, hp.counter⟩) fun _ _ => trivial).bind fun _ => ?_
    refine Ensures.bind (ensures_job (Q := fun _ => Numbering done ⟨service, input, output⟩)
      fun p hp => .returns ⟨hp.found, hp.counter⟩) fun _ => ?_
    refine ensures_modify fun p hp => ⟨?_, hp.counter⟩
    rw [hp.found, named_concat]
    rfl
  · rintro p ⟨rfl, hp⟩
    exact ⟨hp.counter, hp⟩

theorem keeps_numbered :
    Keeps scope writes (fun p : Pass S => ∃ done, Numbered done p) (fun _ => True) where
  consults := fun _ _ _ ⟨done, hp⟩ => ⟨done, hp.found, hp.counter⟩
  notes := fun _ _ ⟨done, hp⟩ => ⟨done, hp.found, hp.counter⟩
  types := fun _ _ ⟨done, hp⟩ => ⟨done, hp.found, hp.counter⟩
  records := fun service input output p ⟨_, hp⟩ =>
    (ensures_record_numbered service input output p hp).mono (fun _ _ h => ⟨_, h⟩) fun _ _ h => h
  gives_up := fun _ _ => trivial

/-- What a derivation reports is what its pass has found, with the names that go with it. -/
theorem reports_named (target : ClientId) (context : String) (writes : List Write) :
    Ensures (fun _ : Outside S => True) (run target context writes)
      (fun report _ => ∃ found, report.transformations = named found) fun _ _ => True := by
  refine (ensures_run (P := fun _ => True) (F := fun _ => True) (L := fun _ => True)
    (B := fun _ _ => True)
    (D := fun _ derived found _ => derived = .ok () → ∃ done, found = named done)
    (C := fun _ derived found _ => derived = .ok () → ∃ done, found = named done)
    (R := fun derived found _ => derived = .ok () → ∃ done, found = named done)
    target context writes ?_ ?_ ?_ (fun _ _ _ _ h => ⟨h, fun _ _ => trivial⟩)
    fun _ _ => trivial).mono (fun _ h => h) (fun report _ h => h.2 rfl) fun _ _ _ => trivial
  · intro s _
    split <;> trivial
  · intro working o _
    have hstart : Numbered (S := S) [] { outside := o } := ⟨rfl, fun _ => rfl⟩
    refine (keeps_numbered.upholds.pass _ ⟨[], hstart⟩).mono ?_ ?_
    · rintro _ p ⟨done, hp⟩ _
      exact ⟨done, hp.found⟩
    · intro f p _ hok
      contradiction
  · intro working derived found
    exact ensures_clean (P := fun _ => derived = .ok () → ∃ done, found = named done)
      (E := fun _ => True ∧ (derived = .ok () → ∃ done, found = named done))
      (fun _ _ _ h => h) fun _ _ _ h _ => ⟨trivial, h⟩

/-- Whatever the stores answer: the names in a report are pairwise different, and the
transformations of each service are called by the service, a fixed word and the numbers from one up
to how many there are, in the order of the report. -/
theorem names_unique_and_gapless (target : ClientId) (context : String) (writes : List Write)
    (o : Outside S) (report : Report) (hreport : (run target context writes o).1 = .ok report) :
    (report.transformations.map Transformation.name).Nodup ∧
    ∀ service, ∃ k,
      (report.transformations.filter (·.service == service)).map Transformation.name =
        (List.range k).map fun n => service ++ "Transformation" ++ toString (n + 1) := by
  obtain ⟨found, hfound⟩ := (reports_named target context writes o trivial).of_ok hreport
  rw [hfound]
  exact ⟨nodup_names found, fun service => ⟨_, names_of_service service found⟩⟩

/-- Stores that answer each query by the same rows and every second question by no. -/
structure Alternating where
  rows : List Row
  answer : Bool := true

instance : Backend Alternating where
  durability _ _ := .onCommit
  act s _ _ := .ok () s
  select s _ _ := .ok s.rows s
  ask s _ _ := .ok s.answer { s with answer := !s.answer }
  create s := .ok ⟨1⟩ s
  openWorking s := .ok ⟨0⟩ s
  shutDownWorking s := .ok () s

/-- Two services are described, one of them twice.  The other one is named like a transformation of
the first one. -/
def likeNamed : Alternating where
  rows := ["urn:s", "urn:sTransformation1", "urn:s"].map fun service =>
    Row.ofList [(Queries.serviceColumn, service), (Queries.inputColumn, "urn:pdf"),
      (Queries.outputClassColumn, "urn:C"), (Queries.outputFormatColumn, "urn:png")]

theorem names_unique_and_gapless_likeNamed :
    ∃ report : Report, (run ⟨1⟩ "urn:g" [] ⟨likeNamed, default⟩).1 = .ok report ∧
      report.transformations.map Transformation.name =
        ["urn:sTransformation1", "urn:sTransformation2", "urn:sTransformation1Transformation1",
          "urn:sTransformation3", "urn:sTransformation4"] ∧
      (report.transformations.map Transformation.name).Nodup ∧
      ∀ service, ∃ k,
        (report.transformations.filter (·.service == service)).map Transformation.name =
          (List.range k).map fun n => service ++ "Transformation" ++ toString (n + 1) := by
  have hnames : (run ⟨1⟩ "urn:g" [] ⟨likeNamed, default⟩).1.toOption.map
      (·.transformations.map Transformation.name) =
        some ["urn:sTransformation1", "urn:sTransformation2", "urn:sTransformation1Transformation1",
          "urn:sTransformation3", "urn:sTransformation4"] := by
    decide +kernel
  cases hresult : (run ⟨1⟩ "urn:g" [] ⟨likeNamed, default⟩).1 with
  | error f =>
    rw [hresult] at hnames
    contradiction
  | ok report =>
    rw [hresult] at hnames
    exact ⟨report, rfl, Option.some.inj hnames,
      names_unique_and_gapless ⟨1⟩ "urn:g" [] ⟨likeNamed, default⟩ report hresult⟩

end GraphCommit.Derivation
