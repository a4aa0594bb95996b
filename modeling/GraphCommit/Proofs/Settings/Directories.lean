import GraphCommit.Proofs.Store.Working
import GraphCommit.Settings.Environment
import GraphCommit.Settings.Json
import GraphCommit.Store.Opening

/-!
# The directories of the repositories

Settings are accepted if the main and the working repository are called differently.  Their
directories are found by joining the data directory with the two names, and different names may well
be joined to one path: an absolute name stands for itself, and empty names and single dots between
the slashes of a path say nothing.

Two paths are the `Same` if they agree but for such names.  It is said exactly when the directories
of accepted settings are the same path, and when they are one place of a tree of files
(`directories_of_names`).  Plain names are always safe.  Where both directories are one place, the
working repository cannot be opened as long as the main one is open.
-/

namespace GraphCommit

namespace Files

namespace Path

variable {dir name main working : String}

/-- Whether a name on a path leads anywhere. -/
def leads (name : String) : Bool := name != "" && name != "."

/-- The names on a path that lead anywhere. -/
def steps (path : String) : List String := (names path).filter leads

/-- Whether a path begins with a single dot. -/
def startsAtDot (path : String) : Bool := (names path).head? == some "."

/-- Two paths are the same up to empty names and single dots behind the first name. -/
structure Same (p q : String) : Prop where
  absolute : isAbsolute p = isAbsolute q
  dot : startsAtDot p = startsAtDot q
  steps : steps p = steps q

/-- A name that is neither a path nor a way to stay in a directory or to leave it. -/
structure IsPlain (name : String) : Prop where
  slash : '/' ∉ name.toList
  leads : leads name = true
  up : name ≠ ".."

/-! ## Joining -/

theorem names_slash (dir name : String) : names (dir ++ "/" ++ name) = names dir ++ names name := by
  have hslash : "/".toList = ['/'] := rfl
  simp only [names, String.toList_append, hslash, List.append_assoc, List.cons_append,
    List.nil_append, Text.splitOn_append, List.map_append]

/-- A path that ends in a slash is continued in the place of the empty name at its end. -/
theorem names_of_endsInSlash (hdir : endsInSlash dir.toList = true) :
    ∃ front, names dir = front ++ [""] ∧ front ≠ [] ∧
      ∀ name, names (dir ++ name) = front ++ names name := by
  obtain ⟨text, htext⟩ := List.getLast?_eq_some_iff.mp (by simpa [endsInSlash] using hdir)
  refine ⟨(Text.splitOn '/' text).map String.ofList, ?_, ?_, fun name => ?_⟩
  · rw [names, htext, Text.splitOn_append, List.map_append]
    rfl
  · simpa [Text.splitOn] using Text.splitBy_ne_nil (· == '/') text
  · rw [names, String.toList_append, htext, List.append_assoc, List.cons_append, List.nil_append,
      Text.splitOn_append, List.map_append]
    rfl

theorem names_ne_nil (path : String) : names path ≠ [] := by
  simpa [names, Text.splitOn] using Text.splitBy_ne_nil (· == '/') path.toList

theorem names_of_isPlain (hname : IsPlain name) : names name = [name] := by
  rw [names, Text.splitOn_of_not_mem hname.slash]
  simp

theorem isAbsolute_eq (path : String) : isAbsolute path = (path.toList.head? == some '/') := by
  unfold isAbsolute
  split
  · next rest htext => simp [htext]
  · next htext =>
    cases hpath : path.toList with
    | nil => rfl
    | cons c rest =>
      have hc : c ≠ '/' := by
        rintro rfl
        exact htext rest hpath
      simp [hc]

theorem isAbsolute_of_isPlain (hname : IsPlain name) : isAbsolute name = false := by
  rw [isAbsolute_eq, beq_eq_false_iff_ne]
  exact fun hhead => hname.slash (List.mem_of_mem_head? (by simp [hhead]))

theorem startsAtDot_of_isAbsolute (hname : isAbsolute name = true) : startsAtDot name = false := by
  unfold isAbsolute at hname
  split at hname
  · next rest htext =>
    simp [startsAtDot, names, htext, Text.splitOn, Text.splitBy]
  · contradiction

theorem isAbsolute_append (hdir : dir ≠ "") (tail : String) :
    isAbsolute (dir ++ tail) = isAbsolute dir := by
  obtain ⟨c, rest, htext⟩ :=
    List.exists_cons_of_ne_nil (fun hnil => hdir (String.toList_eq_nil_iff.mp hnil))
  simp [isAbsolute_eq, htext]

/-- What joining makes of a directory and a name that is not absolute. -/
theorem join_cases (dir : String) (hname : isAbsolute name = false) :
    (dir = "" ∧ join dir name = name) ∨
      (dir ≠ "" ∧ endsInSlash dir.toList = true ∧ join dir name = dir ++ name) ∨
      (dir ≠ "" ∧ join dir name = dir ++ "/" ++ name) := by
  unfold join
  rw [hname]
  by_cases hempty : dir = ""
  · subst hempty
    exact Or.inl ⟨rfl, by simp⟩
  · cases hslash : endsInSlash dir.toList with
    | true => exact Or.inr (Or.inl ⟨hempty, rfl, by simp⟩)
    | false => exact Or.inr (Or.inr ⟨hempty, by simp [hempty]⟩)

theorem join_of_isAbsolute (dir : String) (hname : isAbsolute name = true) :
    join dir name = name := by
  rw [join, if_pos hname]

theorem isAbsolute_join (dir : String) (hname : isAbsolute name = false) :
    isAbsolute (join dir name) = isAbsolute dir := by
  rcases join_cases dir hname with ⟨rfl, hjoin⟩ | ⟨hdir, -, hjoin⟩ | ⟨hdir, hjoin⟩
  · rw [hjoin, hname]
    rfl
  · rw [hjoin, isAbsolute_append hdir]
  · rw [hjoin, String.append_assoc, isAbsolute_append hdir]

theorem steps_join (dir : String) (hname : isAbsolute name = false) :
    steps (join dir name) = steps dir ++ steps name := by
  rcases join_cases dir hname with ⟨rfl, hjoin⟩ | ⟨-, hslash, hjoin⟩ | ⟨-, hjoin⟩
  · rw [hjoin]
    rfl
  · -- the empty name behind the slash leads nowhere, so nothing is lost when it is replaced
    obtain ⟨front, hnames, -, hjoined⟩ := names_of_endsInSlash hslash
    simp [hjoin, steps, hnames, hjoined, leads]
  · rw [hjoin, steps, names_slash, List.filter_append]
    rfl

theorem startsAtDot_join (dir : String) (hname : isAbsolute name = false) :
    startsAtDot (join dir name) = if dir = "" then startsAtDot name else startsAtDot dir := by
  rcases join_cases dir hname with ⟨rfl, hjoin⟩ | ⟨hdir, hslash, hjoin⟩ | ⟨hdir, hjoin⟩
  · rw [hjoin, if_pos rfl]
  · obtain ⟨front, hnames, hfront, hjoined⟩ := names_of_endsInSlash hslash
    obtain ⟨first, rest, rfl⟩ := List.exists_cons_of_ne_nil hfront
    rw [hjoin, if_neg hdir, startsAtDot, startsAtDot, hnames, hjoined]
    rfl
  · obtain ⟨first, rest, hnames⟩ := List.exists_cons_of_ne_nil (names_ne_nil dir)
    rw [hjoin, if_neg hdir, startsAtDot, startsAtDot, names_slash, hnames]
    rfl

/-! ## When joining gives the same path -/

/-- Two names are joined with a directory to the same path: they spell one path, or one of them
spells out the path that the other has in the directory. -/
inductive Coincide (dir : String) : String → String → Prop
  | spelled {main working : String} (hkind : isAbsolute main = isAbsolute working)
      (hsteps : steps main = steps working)
      (hdot : dir = "" → startsAtDot main = startsAtDot working) : Coincide dir main working
  | mainInside {main working : String} (hmain : isAbsolute main = false)
      (hworking : isAbsolute working = true) (hdir : isAbsolute dir = true)
      (hsteps : steps working = steps dir ++ steps main) : Coincide dir main working
  | workingInside {main working : String} (hmain : isAbsolute main = true)
      (hworking : isAbsolute working = false) (hdir : isAbsolute dir = true)
      (hsteps : steps main = steps dir ++ steps working) : Coincide dir main working

theorem Same.symm {p q : String} (hsame : Same p q) : Same q p :=
  ⟨hsame.absolute.symm, hsame.dot.symm, hsame.steps.symm⟩

theorem same_join_of_relative (dir : String) (hmain : isAbsolute main = false)
    (hworking : isAbsolute working = false) : Same (join dir main) (join dir working) ↔
      steps main = steps working ∧ (dir = "" → startsAtDot main = startsAtDot working) := by
  constructor
  · rintro ⟨-, hdot, hsteps⟩
    rw [startsAtDot_join dir hmain, startsAtDot_join dir hworking] at hdot
    rw [steps_join dir hmain, steps_join dir hworking] at hsteps
    refine ⟨List.append_cancel_left hsteps, fun hempty => ?_⟩
    simpa [hempty] using hdot
  · rintro ⟨hsteps, hdot⟩
    refine ⟨?_, ?_, ?_⟩
    · rw [isAbsolute_join dir hmain, isAbsolute_join dir hworking]
    · rw [startsAtDot_join dir hmain, startsAtDot_join dir hworking]
      split
      · next hempty => exact hdot hempty
      · rfl
    · rw [steps_join dir hmain, steps_join dir hworking, hsteps]

theorem same_join_of_mixed (dir : String) (hmain : isAbsolute main = false)
    (hworking : isAbsolute working = true) : Same (join dir main) (join dir working) ↔
      isAbsolute dir = true ∧ steps working = steps dir ++ steps main := by
  rw [join_of_isAbsolute dir hworking]
  constructor
  · rintro ⟨habsolute, -, hsteps⟩
    rw [isAbsolute_join dir hmain, hworking] at habsolute
    rw [steps_join dir hmain] at hsteps
    exact ⟨habsolute, hsteps.symm⟩
  · rintro ⟨hdir, hsteps⟩
    have habsolute := isAbsolute_join dir hmain
    refine ⟨habsolute.trans (hdir.trans hworking.symm), ?_, ?_⟩
    · rw [startsAtDot_of_isAbsolute hworking, startsAtDot_of_isAbsolute (habsolute.trans hdir)]
    · rw [steps_join dir hmain, hsteps]

/-- The paths of two names in a directory are the same exactly if the names coincide. -/
theorem same_join_iff (dir : String) :
    Same (join dir main) (join dir working) ↔ Coincide dir main working := by
  constructor
  · intro hsame
    cases hmain : isAbsolute main <;> cases hworking : isAbsolute working
    · obtain ⟨hsteps, hdot⟩ := (same_join_of_relative dir hmain hworking).mp hsame
      exact .spelled (hmain.trans hworking.symm) hsteps hdot
    · obtain ⟨hdir, hsteps⟩ := (same_join_of_mixed dir hmain hworking).mp hsame
      exact .mainInside hmain hworking hdir hsteps
    · obtain ⟨hdir, hsteps⟩ := (same_join_of_mixed dir hworking hmain).mp hsame.symm
      exact .workingInside hmain hworking hdir hsteps
    · rw [join_of_isAbsolute dir hmain, join_of_isAbsolute dir hworking] at hsame
      exact .spelled hsame.absolute hsame.steps fun _ => hsame.dot
  · intro hcoincide
    cases hcoincide with
    | spelled hkind hsteps hdot =>
      cases hmain : isAbsolute main with
      | false =>
        exact (same_join_of_relative dir hmain (hkind.symm.trans hmain)).mpr ⟨hsteps, hdot⟩
      | true =>
        have hworking := hkind.symm.trans hmain
        rw [join_of_isAbsolute dir hmain, join_of_isAbsolute dir hworking]
        exact ⟨hkind, by rw [startsAtDot_of_isAbsolute hmain, startsAtDot_of_isAbsolute hworking],
          hsteps⟩
    | mainInside hmain hworking hdir hsteps =>
      exact (same_join_of_mixed dir hmain hworking).mpr ⟨hdir, hsteps⟩
    | workingInside hmain hworking hdir hsteps =>
      exact ((same_join_of_mixed dir hworking hmain).mpr ⟨hdir, hsteps⟩).symm

/-- Plain names coincide only if they are one name. -/
theorem eq_of_coincide (hmain : IsPlain main) (hworking : IsPlain working)
    (hcoincide : Coincide dir main working) : main = working := by
  have hsteps : ∀ {name}, IsPlain name → steps name = [name] := fun hname => by
    simp [steps, names_of_isPlain hname, hname.leads]
  cases hcoincide with
  | spelled _ hspelled _ =>
    rw [hsteps hmain, hsteps hworking] at hspelled
    exact (List.cons.inj hspelled).1
  | mainInside _ habsolute _ _ => simp [isAbsolute_of_isPlain hworking] at habsolute
  | workingInside habsolute _ _ _ => simp [isAbsolute_of_isPlain hmain] at habsolute

end Path

/-! ## Where paths lead -/

variable {files : Files} {dir name p q : String} {place place' : Place} {node node' : Node}

/-- The place to which a path leads, if there is one. -/
def target (files : Files) (path : String) : Place :=
  (Path.names path).foldl enter (if Path.isAbsolute path then [] else files.current)

/-- The place to which a name leads from a directory. -/
def targetFrom (files : Files) (dir name : String) : Place :=
  (Path.names name).foldl enter (if Path.isAbsolute name then [] else files.target dir)

theorem eq_foldl_of_walk {names : List String}
    (hwalk : files.walk place names = .ok (place', node)) :
    place' = names.foldl enter place := by
  induction names generalizing place with
  | nil => exact (node?_of_walk_nil hwalk).2
  | cons name rest ih =>
    rw [walk_cons (directory_of_walk_cons hwalk)] at hwalk
    exact ih hwalk

theorem eq_target_of_find (hfind : files.find p = .ok (place, node)) : place = files.target p := by
  simp only [find] at hfind
  split at hfind
  · contradiction
  · split at hfind
    · contradiction
    · exact eq_foldl_of_walk hfind

/-- Names that do not lead anywhere can be left out. -/
theorem foldl_enter_filter (names : List String) (place : Place) :
    (names.filter Path.leads).foldl enter place = names.foldl enter place := by
  induction names generalizing place with
  | nil => rfl
  | cons name rest ih =>
    cases hleads : Path.leads name with
    | true => simp [hleads, ih]
    | false =>
      have hstays : enter place name = place := by
        refine if_pos ?_
        simpa [Path.leads, Classical.or_iff_not_imp_left] using hleads
      simp [hleads, hstays, ih]

theorem target_of_same (files : Files) (hsame : Path.Same p q) :
    files.target p = files.target q := by
  rw [target, target, ← foldl_enter_filter (Path.names p), ← foldl_enter_filter (Path.names q),
    hsame.absolute]
  exact congrArg _ hsame.steps

theorem target_join (files : Files) (dir name : String) :
    files.target (Path.join dir name) = files.targetFrom dir name := by
  cases hname : Path.isAbsolute name with
  | true => rw [Path.join_of_isAbsolute dir hname]; simp [target, targetFrom, hname]
  | false =>
    have hsteps := Path.steps_join dir hname
    simp only [target, targetFrom, hname, Path.isAbsolute_join dir hname,
      ← foldl_enter_filter (Path.names (Path.join dir name)),
      ← foldl_enter_filter (Path.names name), ← foldl_enter_filter (Path.names dir)]
    unfold Path.steps at hsteps
    rw [hsteps, List.foldl_append]
    rfl

theorem targetFrom_of_isPlain (files : Files) (dir : String) (hname : Path.IsPlain name) :
    files.targetFrom dir name = files.target dir ++ [name] := by
  have henter : ∀ place, enter place name = place ++ [name] := by
    intro place
    have hleads := hname.leads
    simp only [Path.leads, Bool.and_eq_true, bne_iff_ne] at hleads
    rw [enter, if_neg (not_or.mpr hleads), if_neg hname.up]
  rw [targetFrom, Path.names_of_isPlain hname, Path.isAbsolute_of_isPlain hname]
  exact henter _

end Files

/-! ## Opening one directory twice -/

namespace Depot

variable {d : Depot} {main working : String}

/-- While the main repository is open, the working one is not opened in the same place. -/
theorem working_refused [Engine] (hserving : d.Serving)
    (hmain : (d.repository Depot.main).path = some main)
    (hworking : (d.repository Depot.working).path = some working)
    (hclosed : (d.repository Depot.working).opened = none)
    (hplace : d.files.target main = d.files.target working) :
    ∃ f, (Backend.openWorking d).result = .error f := by
  obtain ⟨hnone, -⟩ | ⟨hpath, hopened, hfound, -⟩ := hserving
  · rw [hmain] at hnone
    contradiction
  next path place =>
  obtain rfl : main = path := Option.some.inj (hmain.symm.trans hpath)
  have hrefused : ∃ f t, initialize_ Depot.working (d, []) = (.error f, t) := by
    unfold initialize_
    rw [Effect.bind_apply, Work.depot_apply]
    simp only [hclosed, hworking, Option.isSome_none, Bool.false_eq_true, if_false]
    rw [Effect.bind_apply]
    have hends := ends_openDirectory Depot.working working (d, [])
    generalize openDirectory Depot.working working (d, []) = outcome at hends
    cases hends with
    | fails _ => exact ⟨_, _, rfl⟩
    | returns hopen =>
      -- what is found there is the directory that the main repository has open
      obtain ⟨later, other, hmake, -, -, hother, hfree⟩ := hopen
      have hcurrent := (Files.makeDirectories_extends hmake).current
      have hplaces : other = place := by
        rw [Files.eq_target_of_find hother, Files.eq_target_of_find hfound, hplace]
        rw [Files.target, Files.target, hcurrent]
      exact absurd (hplaces ▸ hopened) (isInUse_eq_false_iff.mp hfree Depot.main)
  obtain ⟨f, t, hrefused⟩ := hrefused
  refine ⟨f, ?_⟩
  have hopen : (ClientId.mk <$> openAsWorking Depot.working : Work ClientId) (d, []) =
      (.error f, t) := by
    rw [Effect.map_apply, openAsWorking, Effect.bind_apply, hrefused]
  exact congrArg Prod.fst hopen

end Depot

/-! ## Settings that are accepted -/

namespace Settings

open Files.Path

/-- Settings that pass the checks, with whatever they were read from. -/
inductive Accepted (s : Settings) (files : Files) : Prop
  | checked (hvalid : s.validate files = .ok s)
  | read {text : String} (hread : ofJson files text = .ok s)
  | assigned {environment : String → Option String}
      (hassigned : ofEnvironment files environment = .ok s)

/-- However settings were read, they have been checked. -/
theorem Accepted.exists_validate {files : Files} {s : Settings} (haccepted : s.Accepted files) :
    ∃ t : Settings, t.validate files = .ok s := by
  cases haccepted with
  | checked hvalid => exact ⟨s, hvalid⟩
  | read hread =>
    unfold ofJson at hread
    split at hread
    · contradiction
    · exact ⟨_, hread⟩
  | assigned hassigned =>
    -- two of the variables may be missing, and what they hold may be refused
    simp only [ofEnvironment, bind, Except.bind] at hassigned
    repeat' split at hassigned
    all_goals first | contradiction | exact ⟨_, hassigned⟩

/-- The repositories of accepted settings are called differently. -/
theorem Accepted.names_ne {files : Files} {s : Settings} (haccepted : s.Accepted files) :
    s.repository ≠ s.workingRepository := by
  obtain ⟨t, hvalid⟩ := haccepted.exists_validate
  obtain ⟨rfl, hnames⟩ := validate_eq_ok hvalid
  exact hnames

/-- How far apart the directories of two repositories in a data directory are. -/
structure Directories (s : Settings) (dir main working : String) : Prop where
  /-- They are the same path exactly if the names coincide. -/
  paths : Same main working ↔ Coincide dir s.repository s.workingRepository
  /-- Then they lead to one place, whatever is there. -/
  led : Same main working → ∀ files : Files, files.target main = files.target working
  /-- In any case, what is found at them is one place exactly if the names lead from the data
  directory to one place. -/
  places : ∀ (files : Files) (place place' : Files.Place) (node node' : Files.Node),
    files.find main = .ok (place, node) → files.find working = .ok (place', node') →
    (place = place' ↔ files.targetFrom dir s.repository = files.targetFrom dir s.workingRepository)
  /-- Plain names are neither joined to one path nor do they lead to one place. -/
  plain : IsPlain s.repository → IsPlain s.workingRepository →
    ¬ Same main working ∧ ∀ files : Files, files.target main ≠ files.target working
  /-- In one place with the main repository that is open, the working one cannot be opened. -/
  refused : ∀ [Engine] (d : Depot), d.Serving → (d.repository Depot.main).path = some main →
    (d.repository Depot.working).path = some working →
    (d.repository Depot.working).opened = none →
    d.files.target main = d.files.target working → ∃ f, (Backend.openWorking d).result = .error f

/-- The names of accepted settings decide whether their repositories share a directory. -/
theorem directories_of_names {files : Files} {s : Settings} {dir : String}
    (haccepted : s.Accepted files) (hdir : s.dataDir = some dir) :
    ∃ main working, s.repositoryDir = some main ∧ s.workingDir = some working ∧
      s.Directories dir main working := by
  refine ⟨Files.Path.join dir s.repository, Files.Path.join dir s.workingRepository, ?_, ?_, ?_⟩
  · rw [repositoryDir, hdir]
    rfl
  · rw [workingDir, hdir]
    rfl
  · refine ⟨same_join_iff dir, fun hsame tree => tree.target_of_same hsame, ?_, ?_,
      fun _ => Depot.working_refused⟩
    · intro tree place place' node node' hmain hworking
      rw [Files.eq_target_of_find hmain, Files.eq_target_of_find hworking, Files.target_join,
        Files.target_join]
    · intro hmain hworking
      refine ⟨fun hsame => ?_, fun tree hplace => ?_⟩
      · exact haccepted.names_ne (eq_of_coincide hmain hworking ((same_join_iff dir).mp hsame))
      · rw [Files.target_join, Files.target_join, tree.targetFrom_of_isPlain dir hmain,
          tree.targetFrom_of_isPlain dir hworking] at hplace
        exact haccepted.names_ne (List.cons.inj (List.append_cancel_left hplace)).1

/-- The names that are taken when none are given are plain. -/
theorem directories_of_names_default :
    let s : Settings := { dataDir := some "/var/lib/graphs" }
    s.Accepted Files.bare ∧ s.dataDir = some "/var/lib/graphs" ∧
    ∃ main working, s.repositoryDir = some main ∧ s.workingDir = some working ∧
      ¬ Same main working ∧ ∀ files : Files, files.target main ≠ files.target working := by
  intro s
  have haccepted : s.Accepted Files.bare := .checked (by decide)
  obtain ⟨main, working, hmain, hworking, hdirectories⟩ := directories_of_names haccepted rfl
  have hplain : IsPlain s.repository ∧ IsPlain s.workingRepository :=
    ⟨⟨by decide, by decide, by decide⟩, ⟨by decide, by decide, by decide⟩⟩
  exact ⟨haccepted, rfl, main, working, hmain, hworking, hdirectories.plain hplain.1 hplain.2⟩

/-- A working repository whose name is the very path of the main one. -/
theorem directory_named_twice :
    ¬ ∀ (files : Files) (s : Settings), s.Accepted files → s.dataDir ≠ none →
      s.repositoryDir ≠ s.workingDir := by
  intro happart
  let environment : String → Option String := fun name =>
    if name = dataVariable then some "/data"
    else if name = workingVariable then some "/data/main"
    else none
  let s : Settings := { dataDir := some "/data", workingRepository := "/data/main" }
  have haccepted : s.Accepted Files.bare :=
    .assigned (show ofEnvironment Files.bare environment = .ok s by decide)
  exact happart Files.bare s haccepted (by decide) (by decide)

end Settings

end GraphCommit
