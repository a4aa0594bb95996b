import Mathlib.Data.Set.Insert
import GraphCommit.Proofs.Store.History

/-!
# What accepted writes make of the contents

The contents of a dataset are its quads as a set.  `Depot.effect` says what a write makes of the
contents when it is accepted, and knows nothing of staging: triples are inserted or removed, or a
graph is emptied.  A document is the one that the depot has when the write is accepted, not when it
is committed, and its blank nodes are new ones then.

The changes that the accepted writes of a client have staged do to committed data just what these
writes do to the contents, one after another (`contents_stagedOf`).
-/

namespace GraphCommit

/-! ## Contents -/

/-- The quad that a triple makes in a graph. -/
def Triple.quadIn (t : Triple) (graph : String) : Quad :=
  ⟨some graph, ⟨.iri t.subject, .iri t.predicate, .iri t.object⟩⟩

namespace Dataset

def contents (d : Dataset) : Set Quad := {q | q ∈ d.quads}

variable (d : Dataset) (q : Quad)

@[simp] theorem contents_insert : (d.insert q).contents = Insert.insert q d.contents := by
  ext r
  simp [contents]

@[simp] theorem contents_remove : (d.remove q).contents = d.contents \ {q} := by
  ext r
  simp [contents]

@[simp] theorem contents_clear (graph : Option String) :
    (d.clear graph).contents = {r ∈ d.contents | r.graph ≠ graph} := by
  ext r
  simp [contents]

/-- All statements of a document are inserted. -/
theorem contents_insertAll (f : Statement → Quad) (statements : List Statement) :
    (d.applyAll (statements.map fun s => .insert (f s))).contents =
      d.contents ∪ {q | ∃ s ∈ statements, q = f s} := by
  induction statements generalizing d with
  | nil => simp
  | cons s rest ih =>
    change ((d.insert (f s)).applyAll (rest.map fun s => .insert (f s))).contents = _
    rw [ih, contents_insert]
    ext q
    simp only [Set.mem_union, Set.mem_insert_iff, Set.mem_ofPred_eq, List.mem_cons,
      exists_eq_or_imp]
    constructor
    · rintro ((rfl | hq) | hq)
      · exact Or.inr (Or.inl rfl)
      · exact Or.inl hq
      · exact Or.inr (Or.inr hq)
    · rintro (hq | rfl | hq)
      · exact Or.inl (Or.inr hq)
      · exact Or.inl (Or.inl rfl)
      · exact Or.inr hq

end Dataset

/-! ## The effect of a write -/

namespace Depot

/-- The committed quads. -/
def contents (d : Depot) : Set Quad := d.committed.contents

/-- What a write makes of some quads when a depot accepts it. -/
def effect [Document.Fetcher] (d : Depot) (quads : Set Quad) : Write → Set Quad
  | .addData url base graph =>
    match Document.read d.files url base with
    | .ok contents =>
      quads ∪ {q | ∃ s ∈ contents.statements, q = ⟨some graph, renumbered d.blanks s⟩}
    | .error _ => quads
  | .addTriple t graph => insert (t.quadIn graph) quads
  | .removeTriple t graph => quads \ {t.quadIn graph}
  | .clear graph => {q ∈ quads | q.graph ≠ some graph}

theorem context_eq_ok {text graph : String} (hcontext : context text = .ok graph) :
    graph = text := by
  unfold context at hcontext
  split at hcontext
  · exact (Except.ok.inj hcontext).symm
  · contradiction

theorem component_eq_ok {text : String} {term : Term} (hcomponent : component text = .ok term) :
    term = .iri text := by
  unfold component at hcomponent
  split at hcomponent
  · exact (Except.ok.inj hcomponent).symm
  · contradiction

theorem quad_eq_ok {t : Triple} {graph : String} {q : Quad} (hquad : quad t graph = .ok q) :
    q = t.quadIn graph := by
  obtain ⟨g, hgraph, hquad⟩ := Effect.exists_of_bind_eq_ok hquad
  obtain ⟨s, hsubject, hquad⟩ := Effect.exists_of_bind_eq_ok hquad
  obtain ⟨p, hpredicate, hquad⟩ := Effect.exists_of_bind_eq_ok hquad
  obtain ⟨o, hobject, hquad⟩ := Effect.exists_of_bind_eq_ok hquad
  obtain rfl := Except.ok.inj hquad
  rw [context_eq_ok hgraph, component_eq_ok hsubject, component_eq_ok hpredicate,
    component_eq_ok hobject]
  rfl

/-- The changes that an accepted write stages have its effect. -/
theorem contents_staging [Document.Fetcher] {d : Depot} {w : Write} {staged : List Staged}
    {blanks : Nat} (hchanges : d.changes w = .ok (staged, blanks)) (data : Dataset) :
    (data.applyAll (d.staging w)).contents = d.effect data.contents w := by
  simp only [staging, hchanges]
  cases w with
  | addData url base graph =>
    obtain ⟨g, hgraph, hchanges⟩ := Effect.exists_of_bind_eq_ok hchanges
    obtain ⟨contents, hread, hchanges⟩ := Effect.exists_of_bind_eq_ok hchanges
    obtain ⟨rfl, -⟩ := Prod.mk.inj (Except.ok.inj hchanges)
    obtain rfl := context_eq_ok hgraph
    simp only [effect, hread]
    exact data.contents_insertAll _ _
  | addTriple t graph =>
    obtain ⟨q, hquad, hchanges⟩ := Effect.exists_of_bind_eq_ok hchanges
    obtain ⟨rfl, -⟩ := Prod.mk.inj (Except.ok.inj hchanges)
    obtain rfl := quad_eq_ok hquad
    exact data.contents_insert _
  | removeTriple t graph =>
    obtain ⟨q, hquad, hchanges⟩ := Effect.exists_of_bind_eq_ok hchanges
    obtain ⟨rfl, -⟩ := Prod.mk.inj (Except.ok.inj hchanges)
    obtain rfl := quad_eq_ok hquad
    exact data.contents_remove _
  | clear graph =>
    obtain ⟨g, hgraph, hchanges⟩ := Effect.exists_of_bind_eq_ok hchanges
    obtain ⟨rfl, -⟩ := Prod.mk.inj (Except.ok.inj hchanges)
    obtain rfl := context_eq_ok hgraph
    exact data.contents_clear _

/-- A write is accepted only if the changes that it makes are known. -/
theorem changes_of_isAnswered [Engine] {d : Depot} {k : ClientId} {w : Write}
    (hanswered : (Question.act k (.write w)).isAnswered d = true) :
    ∃ staged blanks, d.changes w = .ok (staged, blanks) := by
  rcases hchanges : d.changes w with fault | ⟨staged, blanks⟩
  · have hwrite : write k.number w (d, []) = (.error fault, (d, [])) := by
      unfold write
      rw [Effect.bind_apply, Work.depot_apply]
      dsimp only
      rw [Effect.bind_apply, Work.lift_apply, hchanges]
    have hresult : (Backend.act d k (.write w)).result = .error fault := by
      change (Work.respond (write k.number w) d).result = _
      unfold Work.respond
      rw [show (write k.number w).run (d, []) = _ from hwrite]
    change (Backend.act d k (.write w)).result.isOk = true at hanswered
    rw [hresult] at hanswered
    contradiction
  · exact ⟨staged, blanks, rfl⟩

end Depot

/-! ## The effect of many writes -/

namespace Recorded

/-- What writes make of some quads, each with the depot that accepted it, in order. -/
def written [Document.Fetcher] (accepted : List (Depot × Write)) (quads : Set Quad) : Set Quad :=
  accepted.foldl (fun quads a => a.1.effect quads a.2) quads

@[simp] theorem written_append [Document.Fetcher] (first second : List (Depot × Write))
    (quads : Set Quad) :
    written (first ++ second) quads = written second (written first quads) :=
  List.foldl_append

/-- The staged changes of a client have the effect of its accepted writes. -/
theorem contents_stagedOf [Engine] {k : ClientId} {asked : List (Entry Depot)}
    (htrue : ∀ e ∈ asked, e.IsTrue) (data : Dataset) :
    (data.applyAll (stagedOf k asked)).contents = written (writesOf k asked) data.contents := by
  induction asked generalizing data with
  | nil => rfl
  | cons e rest ih =>
    have hrest := ih fun e' he' => htrue e' (List.mem_cons_of_mem _ he')
    cases hwrite : e.write? k with
    | none =>
      have hskip : writesOf k (e :: rest) = writesOf k rest := List.filterMap_cons_none hwrite
      rw [stagedOf, hskip]
      exact hrest data
    | some accepted =>
      have hfirst : writesOf k (e :: rest) = accepted :: writesOf k rest :=
        List.filterMap_cons_some hwrite
      -- the log is true: the write was accepted where it was made, and staged as it says
      have hone : (data.applyAll (accepted.1.staging accepted.2)).contents =
          accepted.1.effect data.contents accepted.2 := by
        have he := htrue e List.mem_cons_self
        unfold Entry.write? at hwrite
        split at hwrite
        · next j w hquestion =>
          obtain ⟨⟨rfl, hanswered⟩, hsame⟩ := Option.ite_none_right_eq_some.mp hwrite
          obtain rfl := Option.some.inj hsame
          rw [Entry.IsTrue, hanswered, hquestion] at he
          obtain ⟨staged, blanks, hchanges⟩ := Depot.changes_of_isAnswered he.symm
          exact Depot.contents_staging hchanges data
        · contradiction
      rw [stagedOf, hfirst, List.flatMap_cons, Dataset.applyAll_append]
      change (Dataset.applyAll _ (stagedOf k rest)).contents = written (writesOf k rest) _
      rw [hrest, hone]

end Recorded

end GraphCommit
