import GraphCommit.Rdf.Term

/-!
# Quads in order

The quads of a dataset are a set, and a list of them has an order only because it is a list.
Whoever goes through them and must not depend on that order puts them in an order of their own
first: the same quads come out in the same order, however they were listed (`inOrder_of_perm`).
-/

namespace GraphCommit

/-! ## Lists of numbers -/

/-- Whether a list is another one or comes before it, as the first number in which they differ
decides. -/
def comesFirst : List Nat → List Nat → Bool
  | [], _ => true
  | _ :: _, [] => false
  | a :: rest, b :: others => decide (a < b) || (a == b && comesFirst rest others)

variable {front back later : List Nat}

theorem comesFirst_total (front back : List Nat) :
    comesFirst front back = true ∨ comesFirst back front = true := by
  fun_induction comesFirst front back with
  | case1 => exact Or.inl rfl
  | case2 => exact Or.inr rfl
  | case3 a rest b others ih =>
    simp only [comesFirst, Bool.or_eq_true, Bool.and_eq_true, decide_eq_true_eq, beq_iff_eq]
    rcases Nat.lt_trichotomy a b with hab | rfl | hba
    · exact Or.inl (Or.inl hab)
    · exact ih.imp (fun h => Or.inr ⟨rfl, h⟩) fun h => Or.inr ⟨rfl, h⟩
    · exact Or.inr (Or.inl hba)

theorem comesFirst_antisymm (hfront : comesFirst front back = true)
    (hback : comesFirst back front = true) : front = back := by
  fun_induction comesFirst front back with
  | case1 back =>
    cases back with
    | nil => rfl
    | cons b others => simp [comesFirst] at hback
  | case2 => contradiction
  | case3 a rest b others ih =>
    simp only [comesFirst, Bool.or_eq_true, Bool.and_eq_true, decide_eq_true_eq, beq_iff_eq]
      at hfront hback
    rcases hfront with hab | ⟨rfl, hfront⟩
    · rcases hback with hba | ⟨rfl, -⟩ <;> omega
    · rcases hback with hba | ⟨-, hback⟩
      · omega
      · rw [ih hfront hback]

theorem comesFirst_trans (hfront : comesFirst front back = true)
    (hback : comesFirst back later = true) : comesFirst front later = true := by
  fun_induction comesFirst front back generalizing later with
  | case1 => rfl
  | case2 => contradiction
  | case3 a rest b others ih =>
    cases later with
    | nil => simp [comesFirst] at hback
    | cons c more =>
      simp only [comesFirst, Bool.or_eq_true, Bool.and_eq_true, decide_eq_true_eq, beq_iff_eq]
        at hfront hback ⊢
      rcases hfront with hab | ⟨rfl, hfront⟩
      · omega
      · rcases hback with hbc | ⟨rfl, hback⟩
        · exact Or.inl hbc
        · exact Or.inr ⟨rfl, ih hfront hback⟩

/-! ## Terms and quads as lists of numbers -/

/-- The code points of a text, after their number. -/
def codes (text : String) : List Nat := text.toList.length :: text.toList.map Char.toNat

theorem codes_inj {s t : String} (h : codes s ++ front = codes t ++ back) :
    s = t ∧ front = back := by
  unfold codes at h
  obtain ⟨hlength, h⟩ := List.cons.inj h
  obtain ⟨htext, hrest⟩ := List.append_inj h (by simpa using hlength)
  have hlist := (List.map_inj_right fun _ _ => Char.toNat_inj.mp).mp htext
  exact ⟨String.toList_inj.mp hlist, hrest⟩

/-- What terms are ordered by: their kind, and then what they hold. -/
def Term.key : Term → List Nat
  | .iri text => 0 :: codes text
  | .blank number => [1, number]
  | .literal value .plain => 2 :: codes value
  | .literal value (.language tag) => 3 :: (codes value ++ codes tag)
  | .literal value (.datatype type) => 4 :: (codes value ++ codes type)

/-- The key of a term tells where it ends. -/
theorem Term.key_inj {s t : Term} (h : s.key ++ front = t.key ++ back) :
    s = t ∧ front = back := by
  unfold key at h
  split at h <;> split at h <;> simp at h
  · obtain ⟨rfl, hrest⟩ := codes_inj h
    exact ⟨rfl, hrest⟩
  · exact ⟨by rw [h.1], h.2⟩
  · obtain ⟨rfl, hrest⟩ := codes_inj h
    exact ⟨rfl, hrest⟩
  · obtain ⟨rfl, hrest⟩ := codes_inj h
    obtain ⟨rfl, hend⟩ := codes_inj hrest
    exact ⟨rfl, hend⟩
  · obtain ⟨rfl, hrest⟩ := codes_inj h
    obtain ⟨rfl, hend⟩ := codes_inj hrest
    exact ⟨rfl, hend⟩

namespace Quad

/-- What quads are ordered by: the graph, which may have no name, and then the statement. -/
def key (q : Quad) : List Nat :=
  (match q.graph with
    | none => [0]
    | some name => 1 :: codes name) ++
  (q.statement.subject.key ++ (q.statement.predicate.key ++ q.statement.object.key))

theorem key_inj {q r : Quad} (h : q.key = r.key) : q = r := by
  obtain ⟨graph, subject, predicate, object⟩ := q
  obtain ⟨graph', subject', predicate', object'⟩ := r
  have hstatement : ∀ {s s' p p' o o' : Term},
      s.key ++ (p.key ++ o.key) = s'.key ++ (p'.key ++ o'.key) → s = s' ∧ p = p' ∧ o = o' := by
    intro s s' p p' o o' hkeys
    obtain ⟨hs, hrest⟩ := Term.key_inj hkeys
    obtain ⟨hp, hrest⟩ := Term.key_inj hrest
    have hend : o.key ++ [] = o'.key ++ [] := by rw [hrest]
    exact ⟨hs, hp, (Term.key_inj hend).1⟩
  unfold key at h
  dsimp only at h
  cases graph with
  | none =>
    cases graph' with
    | none =>
      obtain ⟨rfl, rfl, rfl⟩ := hstatement (List.cons.inj h).2
      rfl
    | some name => exact absurd (List.cons.inj h).1 (by decide)
  | some name =>
    cases graph' with
    | none => exact absurd (List.cons.inj h).1 (by decide)
    | some name' =>
      obtain ⟨rfl, hrest⟩ := codes_inj (List.cons.inj h).2
      obtain ⟨rfl, rfl, rfl⟩ := hstatement hrest
      rfl

/-- Puts a quad before the first one that does not come before it. -/
def place (q : Quad) : List Quad → List Quad
  | [] => [q]
  | r :: rest => if comesFirst q.key r.key then q :: r :: rest else r :: place q rest

/-- The quads in the order of their keys. -/
def inOrder (quads : List Quad) : List Quad := quads.foldr place []

/-- Which of two quads is put into its place first does not matter. -/
theorem place_comm (q r : Quad) (quads : List Quad) :
    place q (place r quads) = place r (place q quads) := by
  have hboth : comesFirst q.key r.key = true → comesFirst r.key q.key = true → q = r :=
    fun hqr hrq => key_inj (comesFirst_antisymm hqr hrq)
  have htotal := comesFirst_total q.key r.key
  induction quads with
  | nil =>
    simp only [place]
    grind
  | cons s rest ih =>
    have hthrough : ∀ {a b : Quad}, comesFirst a.key b.key = true →
        comesFirst b.key s.key = true → comesFirst a.key s.key = true :=
      fun hab hbs => comesFirst_trans hab hbs
    by_cases hqs : comesFirst q.key s.key = true
    · by_cases hrs : comesFirst r.key s.key = true
      · simp only [place, if_pos hqs, if_pos hrs]
        grind
      · -- what comes before the first one comes before the second one, too
        have hrq : ¬ comesFirst r.key q.key = true := fun h => hrs (hthrough h hqs)
        simp only [place, if_pos hqs, if_neg hrs, if_neg hrq]
    · by_cases hrs : comesFirst r.key s.key = true
      · have hqr : ¬ comesFirst q.key r.key = true := fun h => hqs (hthrough h hrs)
        simp only [place, if_neg hqs, if_pos hrs, if_neg hqr]
      · simp only [place, if_neg hqs, if_neg hrs, ih]

theorem inOrder_of_perm {quads others : List Quad} (hquads : quads.Perm others) :
    inOrder quads = inOrder others := by
  induction hquads with
  | nil => rfl
  | cons q _ ih => exact congrArg (place q) ih
  | swap q r rest => exact place_comm r q (inOrder rest)
  | trans _ _ ihfirst ihsecond => exact ihfirst.trans ihsecond

end Quad

end GraphCommit
