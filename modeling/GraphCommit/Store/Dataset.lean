import GraphCommit.Rdf.Term

/-!
# Datasets

A dataset is a set of quads, kept in the order in which they were inserted, together with the
graphs that it knows: a graph is known once a quad was inserted into it, also when it is empty
again.  Changes are staged and applied to a dataset one after another.
-/

namespace GraphCommit

structure Dataset where
  quads : List Quad
  graphs : List String
  deriving DecidableEq, Repr, Inhabited

/-- A change that waits for its commit. -/
inductive Staged where
  | insert (q : Quad)
  | remove (q : Quad)
  | clear (graph : String)
  deriving DecidableEq, Repr

namespace Dataset

def empty : Dataset := ⟨[], []⟩

def insert (d : Dataset) (q : Quad) : Dataset where
  quads := if d.quads.contains q then d.quads else d.quads ++ [q]
  graphs :=
    match q.graph with
    | some g => if d.graphs.contains g then d.graphs else d.graphs ++ [g]
    | none => d.graphs

def remove (d : Dataset) (q : Quad) : Dataset := { d with quads := d.quads.filter (· != q) }

/-- Removes the quads of a graph. -/
def clear (d : Dataset) (graph : Option String) : Dataset :=
  { d with quads := d.quads.filter fun q => q.graph != graph }

def knows (d : Dataset) (graph : String) : Bool := d.graphs.contains graph

def size (d : Dataset) : Nat := d.quads.length

/-- Applies a staged change. -/
def apply (d : Dataset) : Staged → Dataset
  | .insert q => d.insert q
  | .remove q => d.remove q
  | .clear graph => d.clear (some graph)

/-- Applies staged changes in order. -/
def applyAll (d : Dataset) (staged : List Staged) : Dataset := staged.foldl apply d

@[simp] theorem mem_quads_insert (d : Dataset) (q r : Quad) :
    r ∈ (d.insert q).quads ↔ r = q ∨ r ∈ d.quads := by
  simp only [insert]
  split
  · next h =>
    have hq : q ∈ d.quads := by simpa using h
    constructor
    · exact Or.inr
    · rintro (rfl | hr)
      · exact hq
      · exact hr
  · simp [or_comm]

@[simp] theorem mem_quads_remove (d : Dataset) (q r : Quad) :
    r ∈ (d.remove q).quads ↔ r ∈ d.quads ∧ r ≠ q := by
  simp [remove]

@[simp] theorem mem_quads_clear (d : Dataset) (graph : Option String) (r : Quad) :
    r ∈ (d.clear graph).quads ↔ r ∈ d.quads ∧ r.graph ≠ graph := by
  simp [clear]

@[simp] theorem applyAll_nil (d : Dataset) : d.applyAll [] = d := rfl

@[simp] theorem applyAll_append (d : Dataset) (first second : List Staged) :
    d.applyAll (first ++ second) = (d.applyAll first).applyAll second :=
  List.foldl_append

end Dataset

end GraphCommit
