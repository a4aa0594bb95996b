/-!
# Rows of a query's answer

A row binds names to values and remembers in which order the names came.  Binding a name again
replaces its value and keeps its place.  Variables without a value are simply absent.

Main statements: a look-up answers the value that was bound last (`get?_insert`), and the names
stand in the order in which they were first bound (`names_insert`).
-/

namespace GraphCommit

/-- One solution of a query: names with their values, in the order in which they were bound. -/
structure Row where
  bindings : List (String × String)
  deriving DecidableEq, Repr, Inhabited

namespace Row

/-- The row that binds nothing. -/
def empty : Row := ⟨[]⟩

/-- Replaces the value at the first place of `name`, or adds the binding at the end. -/
def bind (name value : String) : List (String × String) → List (String × String)
  | [] => [(name, value)]
  | (n, v) :: rest => if n = name then (n, value) :: rest else (n, v) :: bind name value rest

/-- Binds `name` to `value`. -/
def insert (row : Row) (name value : String) : Row := ⟨bind name value row.bindings⟩

/-- Binds the pairs one after another, starting from the empty row. -/
def ofList (pairs : List (String × String)) : Row :=
  pairs.foldl (fun row pair => row.insert pair.1 pair.2) empty

def get? (row : Row) (name : String) : Option String := row.bindings.lookup name

def names (row : Row) : List String := row.bindings.map Prod.fst

def size (row : Row) : Nat := row.bindings.length

def isEmpty (row : Row) : Bool := row.bindings.isEmpty

/-- The bindings as `name=value`, in braces. -/
def text (row : Row) : String :=
  "\x7b" ++ ", ".intercalate (row.bindings.map fun b => b.1 ++ "=" ++ b.2) ++ "\x7d"

theorem lookup_bind (name value other : String) (bindings : List (String × String)) :
    (bind name value bindings).lookup other =
      if other = name then some value else bindings.lookup other := by
  induction bindings with
  | nil => by_cases h : other = name <;> simp [bind, h, beq_false_of_ne, List.lookup_cons]
  | cons b rest ih =>
    obtain ⟨n, v⟩ := b
    unfold bind
    split
    · next hn =>
      subst hn
      by_cases h : other = n
      · simp [h]
      · simp [List.lookup_cons, h, beq_false_of_ne h]
    · next hn =>
      by_cases h : other = n
      · subst h
        simp [hn]
      · simp [List.lookup_cons, beq_false_of_ne h, ih]

@[simp] theorem get?_insert (row : Row) (name value other : String) :
    (row.insert name value).get? other = if other = name then some value else row.get? other :=
  lookup_bind name value other row.bindings

theorem names_insert (row : Row) (name value : String) :
    (row.insert name value).names =
      if name ∈ row.names then row.names else row.names ++ [name] := by
  obtain ⟨bindings⟩ := row
  simp only [insert, names]
  induction bindings with
  | nil => simp [bind]
  | cons b rest ih =>
    obtain ⟨n, v⟩ := b
    unfold bind
    split
    · next hn => simp [hn]
    · next hn =>
      have hn' : name ≠ n := fun h => hn h.symm
      by_cases h : name ∈ rest.map Prod.fst
      · simp [ih, h]
      · simp only [List.map_cons, ih, List.mem_cons, hn', h, or_self, if_false, List.cons_append]

end Row

end GraphCommit
