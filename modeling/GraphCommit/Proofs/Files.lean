import Mathlib.Data.List.TakeWhile
import GraphCommit.Files.Tree

/-!
# Directories that are made

Making directories adds nodes where there were none, so a path that leads somewhere leads there
still (`find_of_makeDirectories`).  Where a path leads to a directory there is nothing to make
(`makeDirectories_of_find`): a repository that is closed and opened again finds its directory as it
was.
-/

namespace GraphCommit

/-- Looking up in an association list in which the entries of one key were replaced. -/
theorem lookup_replace {α β : Type} [BEq α] [LawfulBEq α] (key other : α) (value : β)
    (entries : List (α × β)) :
    ((key, value) :: entries.filter (fun entry => entry.1 != key)).lookup other =
      if other == key then some value else entries.lookup other := by
  cases hkey : other == key with
  | true => simp [List.lookup_cons, hkey]
  | false =>
    rw [List.lookup_cons, hkey]
    simp only [Bool.false_eq_true, if_false]
    -- only entries of another name decide what another name finds
    induction entries with
    | nil => rfl
    | cons entry rest ih =>
      obtain ⟨name, held⟩ := entry
      by_cases hname : name = key
      · subst hname
        simpa [List.lookup_cons, hkey] using ih
      · have hkept : (name != key) = true := by simpa using hname
        cases hother : other == name with
        | true => simp [hkept, List.lookup_cons, hother]
        | false => simpa [hkept, List.lookup_cons, hother] using ih

namespace Files

variable {files later : Files} {place : Place} {names : List String} {path : String}

theorem node?_put (files : Files) (place other : Place) (node : Node) (hplace : place ≠ []) :
    (files.put place node).node? other =
      if other = place then some node else files.node? other := by
  by_cases hempty : other = []
  · subst hempty
    simp [node?, hplace.symm]
  · have hlookup := lookup_replace place other node files.nodes
    simpa [node?, put, hempty] using hlookup

/-- Everything is where it was, and perhaps there is more. -/
structure Extends (files later : Files) : Prop where
  current : later.current = files.current
  nodes : ∀ place node, files.node? place = some node → later.node? place = some node

theorem Extends.refl (files : Files) : Extends files files := ⟨rfl, fun _ _ h => h⟩

theorem Extends.trans {latest : Files} (hfirst : Extends files later)
    (hsecond : Extends later latest) : Extends files latest :=
  ⟨hsecond.current.trans hfirst.current,
    fun place node h => hsecond.nodes place node (hfirst.nodes place node h)⟩

theorem extends_put (hfree : files.node? place = none) (node : Node) :
    Extends files (files.put place node) := by
  have hplace : place ≠ [] := by
    rintro rfl
    simp [node?] at hfree
  refine ⟨rfl, fun other held hother => ?_⟩
  rw [node?_put files place other node hplace]
  by_cases heq : other = place
  · rw [heq, hfree] at hother
    contradiction
  · rw [if_neg heq]
    exact hother

/-- Where a name leads from a directory. -/
def enter (place : Place) (name : String) : Place :=
  if name = "" ∨ name = "." then place
  else if name = ".." then place.dropLast
  else place ++ [name]

theorem walk_cons {name : String} (hnode : files.node? place = some .directory) :
    files.walk place (name :: names) = files.walk (enter place name) names := by
  simp only [walk, hnode, enter]
  split
  · rfl
  · split <;> rfl

/-- Names are walked through directories. -/
theorem directory_of_walk_cons {name : String} {result : Place × Node}
    (hwalk : files.walk place (name :: names) = .ok result) :
    files.node? place = some .directory := by
  cases hnode : files.node? place with
  | none => simp [walk, hnode] at hwalk
  | some node =>
    cases node with
    | directory => rfl
    | document bytes => simp [walk, hnode] at hwalk
    | device => simp [walk, hnode] at hwalk

theorem node?_of_walk_nil {result : Place × Node} (hwalk : files.walk place [] = .ok result) :
    files.node? place = some result.2 ∧ result.1 = place := by
  cases hnode : files.node? place with
  | none => simp [walk, hnode] at hwalk
  | some node =>
    obtain rfl : (place, node) = result := by simpa [walk, hnode] using hwalk
    exact ⟨rfl, rfl⟩

/-- Walking names does the same while there is no less. -/
theorem walk_extends (hextends : Extends files later) {result : Place × Node} :
    ∀ {names : List String} {place : Place}, files.walk place names = .ok result →
      later.walk place names = .ok result := by
  intro names
  induction names with
  | nil =>
    intro place hwalk
    obtain ⟨hnode, rfl⟩ := node?_of_walk_nil hwalk
    simp only [walk, hextends.nodes _ _ hnode]
  | cons name rest ih =>
    intro place hwalk
    have hnode := directory_of_walk_cons hwalk
    rw [walk_cons hnode] at hwalk
    rw [walk_cons (hextends.nodes place _ hnode)]
    exact ih hwalk

theorem find_extends (hextends : Extends files later) {result : Place × Node}
    (hfind : files.find path = .ok result) : later.find path = .ok result := by
  simp only [find] at hfind ⊢
  split at hfind
  · contradiction
  · next hnul =>
    rw [if_neg hnul]
    split at hfind
    · contradiction
    · next hempty =>
      rw [if_neg hempty, hextends.current]
      exact walk_extends hextends hfind

/-! ## Making directories -/

theorem makeAlong_cons {name : String} (hnode : files.node? place = some .directory) :
    files.makeAlong place (name :: names) = files.makeAlong (enter place name) names := by
  simp only [makeAlong, hnode, enter]
  split
  · rfl
  · split <;> rfl

theorem makeAlong_cons_of_none {name : String} (hnode : files.node? place = none) :
    files.makeAlong place (name :: names) =
      (files.put place .directory).makeAlong (enter place name) names := by
  simp only [makeAlong, hnode, enter]
  split
  · rfl
  · split <;> rfl

theorem makeAlong_extends :
    ∀ {names : List String} {files later : Files} {place : Place},
      files.makeAlong place names = .ok later → Extends files later := by
  intro names
  induction names with
  | nil =>
    intro files later place hmake
    cases hnode : files.node? place with
    | none =>
      simp only [makeAlong, hnode, Except.ok.injEq] at hmake
      exact hmake ▸ extends_put hnode .directory
    | some node =>
      cases node with
      | directory =>
        simp only [makeAlong, hnode, Except.ok.injEq] at hmake
        exact hmake ▸ Extends.refl files
      | document bytes => simp [makeAlong, hnode] at hmake
      | device => simp [makeAlong, hnode] at hmake
  | cons name rest ih =>
    intro files later place hmake
    cases hnode : files.node? place with
    | none =>
      rw [makeAlong_cons_of_none hnode] at hmake
      exact (extends_put hnode .directory).trans (ih hmake)
    | some node =>
      cases node with
      | directory =>
        rw [makeAlong_cons hnode] at hmake
        exact ih hmake
      | document bytes => simp [makeAlong, hnode] at hmake
      | device => simp [makeAlong, hnode] at hmake

theorem makeDirectories_extends (hmake : files.makeDirectories path = .ok later) :
    Extends files later := by
  simp only [makeDirectories] at hmake
  split at hmake
  · contradiction
  · split at hmake
    · exact Except.ok.inj hmake ▸ Extends.refl files
    · exact makeAlong_extends hmake

theorem node?_put_self (hfree : files.node? place = none) (node : Node) :
    (files.put place node).node? place = some node := by
  have hplace : place ≠ [] := by
    rintro rfl
    simp [node?] at hfree
  rw [node?_put files place place node hplace, if_pos rfl]

/-- What was made along some names need not be made again. -/
theorem makeAlong_again :
    ∀ {names : List String} {files later : Files} {place : Place},
      files.makeAlong place names = .ok later → later.makeAlong place names = .ok later := by
  intro names
  induction names with
  | nil =>
    intro files later place hmake
    cases hnode : files.node? place with
    | none =>
      simp only [makeAlong, hnode, Except.ok.injEq] at hmake
      subst hmake
      simp only [makeAlong, node?_put_self hnode]
    | some node =>
      cases node with
      | directory =>
        simp only [makeAlong, hnode, Except.ok.injEq] at hmake
        subst hmake
        simp only [makeAlong, hnode]
      | document bytes => simp [makeAlong, hnode] at hmake
      | device => simp [makeAlong, hnode] at hmake
  | cons name rest ih =>
    intro files later place hmake
    cases hnode : files.node? place with
    | none =>
      rw [makeAlong_cons_of_none hnode] at hmake
      -- the directory that was made on the way is still there at the end
      have hlater := (makeAlong_extends hmake).nodes place _ (node?_put_self hnode .directory)
      rw [makeAlong_cons hlater]
      exact ih hmake
    | some node =>
      cases node with
      | directory =>
        rw [makeAlong_cons hnode] at hmake
        rw [makeAlong_cons ((makeAlong_extends hmake).nodes place _ hnode)]
        exact ih hmake
      | document bytes => simp [makeAlong, hnode] at hmake
      | device => simp [makeAlong, hnode] at hmake

theorem makeDirectories_again (hmake : files.makeDirectories path = .ok later) :
    later.makeDirectories path = .ok later := by
  have hcurrent := (makeDirectories_extends hmake).current
  simp only [makeDirectories] at hmake ⊢
  split at hmake
  · contradiction
  · next hnul =>
    rw [if_neg hnul]
    split at hmake
    · next hempty => rw [if_pos hempty]
    · next hempty =>
      rw [if_neg hempty, hcurrent]
      exact makeAlong_again hmake

/-- Where names lead to a directory, nothing is made. -/
theorem makeAlong_of_walk {target : Place} :
    ∀ {names : List String} {place : Place}, files.walk place names = .ok (target, .directory) →
      files.makeAlong place names = .ok files := by
  intro names
  induction names with
  | nil =>
    intro place hwalk
    simp only [makeAlong, (node?_of_walk_nil hwalk).1]
  | cons name rest ih =>
    intro place hwalk
    have hnode := directory_of_walk_cons hwalk
    rw [walk_cons hnode] at hwalk
    rw [makeAlong_cons hnode]
    exact ih hwalk

/-- Empty names stay in the directory where they begin. -/
theorem walk_empties {target : Place} {empties : List String}
    (hempties : ∀ name ∈ empties, name = "")
    (hwalk : files.walk place empties = .ok (target, .directory)) :
    files.walk place [] = .ok (target, .directory) := by
  induction empties with
  | nil => exact hwalk
  | cons name rest ih =>
    obtain rfl := hempties name List.mem_cons_self
    have hnode := directory_of_walk_cons hwalk
    rw [walk_cons hnode] at hwalk
    exact ih (fun name hname => hempties name (List.mem_cons_of_mem _ hname)) hwalk

/-- Empty names at the end make no difference to a directory. -/
theorem walk_of_walk_append {target : Place} {empties : List String}
    (hempties : ∀ name ∈ empties, name = "") :
    ∀ {names : List String} {place : Place},
      files.walk place (names ++ empties) = .ok (target, .directory) →
      files.walk place names = .ok (target, .directory) := by
  intro names
  induction names with
  | nil =>
    intro place hwalk
    exact walk_empties hempties hwalk
  | cons name rest ih =>
    intro place hwalk
    have hnode := directory_of_walk_cons hwalk
    rw [List.cons_append, walk_cons hnode] at hwalk
    rw [walk_cons hnode]
    exact ih hwalk

theorem names_eq (path : String) :
    ∃ empties, Path.names path = namesToMake path ++ empties ∧ ∀ name ∈ empties, name = "" := by
  refine ⟨((Path.names path).reverse.takeWhile (· == "")).reverse, ?_, ?_⟩
  · rw [namesToMake, ← List.reverse_append, List.takeWhile_append_dropWhile, List.reverse_reverse]
  · intro name hname
    have hempty := List.mem_takeWhile_imp (List.mem_reverse.mp hname)
    simpa using hempty

/-- A directory that is there need not be made. -/
theorem makeDirectories_of_find (hfind : files.find path = .ok (place, .directory)) :
    files.makeDirectories path = .ok files := by
  simp only [find] at hfind
  simp only [makeDirectories]
  split at hfind
  · contradiction
  · next hnul =>
    rw [if_neg hnul]
    split at hfind
    · contradiction
    · next hempty =>
      rw [if_neg hempty]
      obtain ⟨empties, hnames, hempties⟩ := names_eq path
      rw [hnames] at hfind
      exact makeAlong_of_walk (walk_of_walk_append hempties hfind)

end Files

end GraphCommit
