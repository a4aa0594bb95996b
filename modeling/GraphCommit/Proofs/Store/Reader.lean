import GraphCommit.Proofs.Store.Twins

/-!
# What a reader of a repository finds

Whoever reads a repository opens it first, if nobody has yet.  What comes of that depends on the
files, on the saved datasets and on the repositories (`openingOf`), and it comes out the same the
next time (`openingOf_again`).  So there is a dataset, or a fault, that every reader of a
repository finds (`found`), whichever client reads and whatever the clients have staged.
-/

namespace GraphCommit.Depot

open Depot.Work Effect

variable {d e f : Depot} {k r : Nat} {s : Depot × List Record}

/-! ## Opening a repository -/

/-- The directory that a path leads to, unless another repository has it open. -/
def freeDirectory (d : Depot) (r : Nat) (files : Files) (path : String) : Except Fault Opened :=
  let refusal := Fault.connection ("cannot initialize repository " ++ (d.repository r).name)
  match files.find path with
  | .ok (place, .directory) => if d.isInUse place then .error refusal else .ok (.directory place)
  | _ => .error refusal

/-- Where a repository has its data when it has been opened, or why it cannot be opened, and the
files then.  Its directory is made also if another repository turns out to have it open. -/
def openingOf (d : Depot) (r : Nat) : Except Fault Opened × Files :=
  match (d.repository r).opened, (d.repository r).path with
  | some opened, _ => (.ok opened, d.files)
  | none, none => (.ok (.memory .empty), d.files)
  | none, some path =>
    match d.files.makeDirectories path with
    | .error e => (.error (.connection ("cannot create " ++ path ++ ": " ++ e.message)), d.files)
    | .ok files => (d.freeDirectory r files path, files)

/-- The depot after a repository was opened, or could not be. -/
def afterOpening (d : Depot) (r : Nat) : Depot :=
  match d.openingOf r with
  | (.ok opened, files) => { d with files }.setOpened r (some opened)
  | (.error _, files) => { d with files }

theorem openDirectory_apply {path : String} (hclosed : (s.1.repository r).opened = none)
    (hpath : (s.1.repository r).path = some path) :
    openDirectory r path s =
      ((s.1.openingOf r).1, ({ s.1 with files := (s.1.openingOf r).2 }, s.2)) := by
  unfold openDirectory openingOf
  rw [bind_apply, depot_apply, hclosed, hpath]
  dsimp only
  cases s.1.files.makeDirectories path with
  | error e => rfl
  | ok files =>
    dsimp only
    rw [bind_apply, setDepot_apply]
    unfold freeDirectory
    dsimp only
    rcases files.find path with e | ⟨place, node⟩
    · rfl
    · cases node with
      | directory =>
        dsimp only
        split <;> rfl
      | _ => rfl

theorem initialize_apply (r : Nat) (s : Depot × List Record) :
    ∃ records, initialize_ r s =
      ((s.1.openingOf r).1.map fun _ => (), (s.1.afterOpening r, records)) := by
  unfold initialize_
  rw [bind_apply, depot_apply]
  dsimp only
  cases hopened : (s.1.repository r).opened with
  | some opened =>
    have hopening : s.1.openingOf r = (.ok opened, s.1.files) := by
      simp only [openingOf, hopened]
    refine ⟨s.2, ?_⟩
    simp only [afterOpening, hopening, setOpened_self hopened]
    rfl
  | none =>
    simp only [Option.isSome_none, Bool.false_eq_true, if_false]
    cases hpath : (s.1.repository r).path with
    | none =>
      have hopening : s.1.openingOf r = (.ok (.memory .empty), s.1.files) := by
        simp only [openingOf, hopened, hpath]
      simp only [afterOpening, hopening]
      exact ⟨_, rfl⟩
    | some path =>
      dsimp only
      rw [bind_apply, openDirectory_apply hopened hpath]
      unfold afterOpening
      rcases s.1.openingOf r with ⟨fault | opened, files⟩
      · exact ⟨_, rfl⟩
      · exact ⟨_, rfl⟩

/-- What could not be opened cannot be opened later either, and for the same reason: the
directories that could be made for it are there then. -/
theorem openingOf_refused {fault : Fault} {files : Files}
    (hopening : d.openingOf r = (.error fault, files)) :
    ({ d with files } : Depot).openingOf r = (.error fault, files) := by
  have hsame : ({ d with files } : Depot).repository r = d.repository r := rfl
  cases hopened : (d.repository r).opened with
  | some opened => simp [openingOf, hopened] at hopening
  | none =>
    cases hpath : (d.repository r).path with
    | none => simp [openingOf, hopened, hpath] at hopening
    | some path =>
      cases hmake : d.files.makeDirectories path with
      | error e =>
        simp only [openingOf, hopened, hpath, hmake] at hopening
        obtain ⟨hfault, rfl⟩ := Prod.mk.inj hopening
        simp only [openingOf, hopened, hpath, hmake, hfault]
      | ok made =>
        simp only [openingOf, hopened, hpath, hmake] at hopening
        obtain ⟨hfault, rfl⟩ := Prod.mk.inj hopening
        simp only [openingOf, hsame, hopened, hpath, Files.makeDirectories_again hmake]
        exact hopening

section

variable (hr : r < d.repositories.length)

include hr

theorem openingOf_setOpened (opened : Opened) :
    (d.setOpened r (some opened)).openingOf r = (.ok opened, d.files) := by
  unfold openingOf
  rw [repository_setOpened_self hr]
  rfl

/-- Who opens a repository after somebody else has tried comes to the same result. -/
theorem openingOf_again : (d.afterOpening r).openingOf r = d.openingOf r := by
  rcases hopening : d.openingOf r with ⟨fault | opened, files⟩
  · simp only [afterOpening, hopening]
    exact openingOf_refused hopening
  · simp only [afterOpening, hopening]
    exact openingOf_setOpened (d := { d with files }) hr opened

end

/-! ## Reading a repository -/

/-- The dataset that is kept there. -/
def datasetIn (d : Depot) : Opened → Dataset
  | .memory data => data
  | .directory place => (d.saved.lookup place).getD .empty

/-- The dataset that a reader of a repository finds, or why there is none. -/
def found (d : Depot) (r : Nat) : Except Fault Dataset := ((data r).respond d).result

theorem data?_eq (d : Depot) (r : Nat) :
    d.data? r = (d.repository r).opened.map d.datasetIn := by
  unfold data?
  rcases (d.repository r).opened with _ | data | place <;> rfl

theorem datasetIn_afterOpening (d : Depot) (r : Nat) :
    (d.afterOpening r).datasetIn = d.datasetIn := by
  unfold afterOpening
  split <;> rfl

theorem data_apply (hr : r < s.1.repositories.length) :
    ∃ records, data r s =
      ((s.1.openingOf r).1.map s.1.datasetIn, (s.1.afterOpening r, records)) := by
  obtain ⟨records, hinitialize⟩ := initialize_apply r s
  refine ⟨records, ?_⟩
  unfold data
  rw [bind_apply, hinitialize]
  rcases hopening : s.1.openingOf r with ⟨fault | opened, files⟩
  · rfl
  · have hdata : (s.1.afterOpening r).data? r = some (s.1.datasetIn opened) := by
      rw [data?_eq, datasetIn_afterOpening]
      simp only [afterOpening, hopening]
      rw [repository_setOpened_self (d := { s.1 with files }) hr]
      rfl
    show (Except.ok (((s.1.afterOpening r).data? r).getD .empty), _) = _
    rw [hdata]
    rfl

theorem found_eq (hr : r < d.repositories.length) :
    d.found r = (d.openingOf r).1.map d.datasetIn := by
  obtain ⟨records, hdata⟩ := data_apply (s := (d, [])) hr
  exact congrArg Prod.fst hdata

/-- What is found does not depend on the clients, on who is connected or on what is staged, nor on
what transactions and flushes will meet with. -/
theorem found_of_clients (hr : r < d.repositories.length) (clients : List Client) (blanks : Nat)
    (failures flushes : List (Option String)) :
    ({ d with clients, blanks, failures, flushes } : Depot).found r = d.found r := by
  rw [found_eq hr, found_eq (d := { d with clients, blanks, failures, flushes }) hr]
  rfl

theorem length_afterOpening (d : Depot) (r : Nat) :
    (d.afterOpening r).repositories.length = d.repositories.length := by
  unfold afterOpening
  split
  · exact List.length_modify _ _ _
  · rfl

theorem found_afterOpening (hr : r < d.repositories.length) :
    (d.afterOpening r).found r = d.found r := by
  have hr' := (length_afterOpening d r).symm ▸ hr
  rw [found_eq hr', found_eq hr, openingOf_again hr, datasetIn_afterOpening]

/-- The data of an open repository are found there. -/
theorem found_of_data? {data : Dataset} (hdata : d.data? r = some data) :
    d.found r = .ok data := by
  rw [data?_eq] at hdata
  obtain ⟨opened, hopened, hdata⟩ := Option.map_eq_some_iff.mp hdata
  have hopening : d.openingOf r = (.ok opened, d.files) := by
    simp only [openingOf, hopened]
  rw [found_eq (lt_of_opened hopened), hopening]
  exact congrArg Except.ok hdata

/-- Where the data of an open repository are replaced, the new ones are found. -/
theorem found_setData (hopen : (d.repository r).opened.isSome = true) (data : Dataset) :
    (d.setData r data).found r = .ok data :=
  found_of_data? (data?_setData hopen data)

end GraphCommit.Depot
