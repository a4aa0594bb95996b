import GraphCommit.Row
import Mathlib.Data.Finset.Card

/-!
# Rows as maps that remember an order

A row comes about by binding names one after another, and some of the names may be bound many
times.  What it is in the end is read off the list of all pairs that were bound: its names are the
names of the list without repetitions, each where it came first, and a name has the value that it
was given last (`ordered_of_pairs`).

The names of a row are distinct because `insert` keeps them so; nothing else is needed of the rows
that the pairs are bound in.
-/

namespace GraphCommit.Row

variable {name other : String} {pairs later : List (String × String)}

/-- Binds pairs one after another in a row that is there already. -/
def insertAll (row : Row) (pairs : List (String × String)) : Row :=
  pairs.foldl (fun row pair => row.insert pair.1 pair.2) row

/-- The values that pairs give to a name, in order. -/
def valuesOf (name : String) (pairs : List (String × String)) : List String :=
  (pairs.filter fun pair => pair.1 == name).map Prod.snd

/-! ## One binding -/

theorem nodup_insert {row : Row} (hrow : row.names.Nodup) (name value : String) :
    (row.insert name value).names.Nodup := by
  rw [names_insert]
  split
  · exact hrow
  · next hnew => exact hrow.append (List.nodup_singleton name) (by simpa using hnew)

/-- Two names can be bound in any order if one of them has its place already. -/
theorem bind_comm {bindings : List (String × String)} (value value' : String) (hne : name ≠ other)
    (hbound : name ∈ bindings.map Prod.fst ∨ other ∈ bindings.map Prod.fst) :
    bind other value' (bind name value bindings) =
      bind name value (bind other value' bindings) := by
  induction bindings with
  | nil => simp at hbound
  | cons b rest ih =>
    obtain ⟨n, v⟩ := b
    -- at the first binding of one of the names, the other one is bound behind it
    by_cases hname : n = name
    · subst hname
      simp [bind, hne]
    · by_cases hother : n = other
      · subst hother
        simp [bind, hname]
      · have hrest : name ∈ rest.map Prod.fst ∨ other ∈ rest.map Prod.fst := by
          simpa [Ne.symm hname, Ne.symm hother] using hbound
        simp [bind, hname, hother, ih hrest]

theorem insert_comm {row : Row} (value value' : String) (hne : name ≠ other)
    (hbound : name ∈ row.names ∨ other ∈ row.names) :
    (row.insert name value).insert other value' = (row.insert other value').insert name value :=
  congrArg Row.mk (bind_comm value value' hne hbound)

/-! ## Many bindings -/

theorem ofList_concat (pairs : List (String × String)) (pair : String × String) :
    ofList (pairs ++ [pair]) = (ofList pairs).insert pair.1 pair.2 := by
  simp [ofList, List.foldl_append]

theorem insertAll_ofList (pairs later : List (String × String)) :
    (ofList pairs).insertAll later = ofList (pairs ++ later) := by
  simp [insertAll, ofList, List.foldl_append]

theorem nodup_ofList (pairs : List (String × String)) : (ofList pairs).names.Nodup := by
  induction pairs using List.reverseRecOn with
  | nil => exact List.nodup_nil
  | append_singleton pairs pair ih =>
    rw [ofList_concat]
    exact nodup_insert ih pair.1 pair.2

/-- A name that comes again changes nothing, a new one comes last. -/
theorem eraseDups_concat (names : List String) (name : String) :
    (names ++ [name]).eraseDups =
      if name ∈ names then names.eraseDups else names.eraseDups ++ [name] := by
  rw [List.eraseDups_append]
  by_cases hname : name ∈ names <;> simp [List.removeAll, List.eraseDups_cons, hname]

theorem names_ofList (pairs : List (String × String)) :
    (ofList pairs).names = (pairs.map Prod.fst).eraseDups := by
  induction pairs using List.reverseRecOn with
  | nil => rfl
  | append_singleton pairs pair ih =>
    rw [ofList_concat, names_insert, ih, List.map_append]
    simp only [List.map_cons, List.map_nil, eraseDups_concat, List.mem_eraseDups]

theorem valuesOf_concat (name : String) (pairs : List (String × String)) (pair : String × String) :
    valuesOf name (pairs ++ [pair]) =
      if name = pair.1 then valuesOf name pairs ++ [pair.2] else valuesOf name pairs := by
  by_cases hname : name = pair.1
  · simp [valuesOf, hname]
  · have hskip : (pair.1 == name) = false := by simpa using Ne.symm hname
    simp [valuesOf, hname, hskip]

theorem get?_ofList (pairs : List (String × String)) (name : String) :
    (ofList pairs).get? name = (valuesOf name pairs).getLast? := by
  induction pairs using List.reverseRecOn with
  | nil => rfl
  | append_singleton pairs pair ih =>
    rw [ofList_concat, get?_insert, valuesOf_concat]
    split
    · exact List.getLast?_concat.symm
    · exact ih

theorem valuesOf_eq_nil_iff : valuesOf name pairs = [] ↔ name ∉ pairs.map Prod.fst := by
  simp only [valuesOf, List.map_eq_nil_iff, List.filter_eq_nil_iff, beq_iff_eq, List.mem_map,
    not_exists, not_and]

theorem size_ofList (pairs : List (String × String)) :
    (ofList pairs).size = (pairs.map Prod.fst).toFinset.card := by
  have hsame : (ofList pairs).names.toFinset = (pairs.map Prod.fst).toFinset := by
    ext name
    simp only [names_ofList, List.mem_toFinset, List.mem_eraseDups]
  calc (ofList pairs).size
      = (ofList pairs).names.length := (List.length_map _).symm
    _ = (ofList pairs).names.toFinset.card :=
        (List.toFinset_card_of_nodup (nodup_ofList pairs)).symm
    _ = (pairs.map Prod.fst).toFinset.card := by rw [hsame]

/-! ## The whole map -/

/-- What a row is after these pairs were bound in it, from the beginning. -/
structure IsOrdered (row : Row) (pairs : List (String × String)) : Prop where
  nodup : row.names.Nodup
  /-- Each name stands where it came first. -/
  names : row.names = (pairs.map Prod.fst).eraseDups
  /-- The last value counts. -/
  value : ∀ name, row.get? name = (valuesOf name pairs).getLast?
  absent : ∀ name, row.get? name = none ↔ name ∉ pairs.map Prod.fst
  size : row.size = (pairs.map Prod.fst).toFinset.card
  /-- Only the order of two new names is remembered. -/
  commutes : ∀ name other value value', name ≠ other → name ∈ row.names ∨ other ∈ row.names →
    (row.insert name value).insert other value' = (row.insert other value').insert name value

/-- A row that was built from a list of pairs, and in which more pairs were bound, is the row of all
these pairs, and it is the ordered map that they describe. -/
theorem ordered_of_pairs (pairs later : List (String × String)) :
    (ofList pairs).insertAll later = ofList (pairs ++ later) ∧
      ((ofList pairs).insertAll later).IsOrdered (pairs ++ later) := by
  rw [insertAll_ofList]
  refine ⟨rfl, nodup_ofList _, names_ofList _, get?_ofList _, ?_, size_ofList _, ?_⟩
  · intro name
    rw [get?_ofList, List.getLast?_eq_none_iff, valuesOf_eq_nil_iff]
  · intro name other value value' hne hbound
    exact insert_comm value value' hne hbound

/-- A name that comes again keeps its place and gets its new value. -/
example : (ofList [("service", "urn:a"), ("input", "urn:b")]).insertAll [("service", "urn:c")] =
    ⟨[("service", "urn:c"), ("input", "urn:b")]⟩ := by
  decide

end GraphCommit.Row
