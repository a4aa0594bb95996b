import GraphCommit.Duration
import GraphCommit.Fault
import GraphCommit.Files.Tree
import GraphCommit.Text.WhiteSpace

/-!
# Settings of a connector

Where the repositories are kept and what they are called, whether transformations are derived, and
how long a call waits for the repository lock.  Settings are checked against the tree of files,
because the data directory must not be something else than a directory.
-/

namespace GraphCommit

/-- Settings of a connector. -/
structure Settings where
  /-- The directory that holds the repositories; without one they are kept in memory. -/
  dataDir : Option String := none
  repository : String := "main"
  /-- The working repository, in which transformations are derived. -/
  workingRepository : String := "working"
  derive : Bool := true
  /-- How many milliseconds a call waits for the lock; without a number it waits for ever. -/
  lockTimeout : Option Nat := none
  deriving DecidableEq, Repr, Inhabited

namespace Settings

/-- What is wrong with settings. -/
inductive Error where
  | repositoryNameEmpty
  | workingNameEmpty
  | sameName (name : String)
  | notADirectory (dir : String)
  | notABoolean (name value : String)
  | notMilliseconds (name reason : String)
  | malformed (reason : String)
  deriving DecidableEq, Repr

def Error.message : Error → String
  | repositoryNameEmpty => "repository name is empty"
  | workingNameEmpty => "working repository name is empty"
  | sameName name => "main and working repository are both named `" ++ name ++ "`"
  | notADirectory dir => dir ++ " is not a directory"
  | notABoolean name value => name ++ " is not a boolean: " ++ value
  | notMilliseconds name reason => name ++ " is not a number of milliseconds: " ++ reason
  | malformed reason => "malformed configuration: " ++ reason

def Error.fault (e : Error) : Fault := .settings e.message

/-- Whether a name holds nothing but white space. -/
def isBlankName (name : String) : Bool := (Text.trim name.toList).isEmpty

/-- The settings themselves, if the names tell the repositories apart and the data directory can
be one. -/
def validate (files : Files) (s : Settings) : Except Error Settings :=
  if isBlankName s.repository then .error .repositoryNameEmpty
  else if isBlankName s.workingRepository then .error .workingNameEmpty
  else if s.repository = s.workingRepository then .error (.sameName s.repository)
  else
    match s.dataDir with
    | some dir =>
      if files.exists_ dir && !files.isDirectory dir then .error (.notADirectory dir) else .ok s
    | none => .ok s

/-- What is checked stays as it is. -/
theorem validate_eq_ok {files : Files} {s t : Settings} (hvalid : s.validate files = .ok t) :
    t = s ∧ s.repository ≠ s.workingRepository := by
  unfold validate at hvalid
  split at hvalid
  · contradiction
  · split at hvalid
    · contradiction
    · split at hvalid
      · contradiction
      · next hnames =>
        split at hvalid
        · split at hvalid
          · contradiction
          · exact ⟨(Except.ok.inj hvalid).symm, hnames⟩
        · exact ⟨(Except.ok.inj hvalid).symm, hnames⟩

def timeout (s : Settings) : Option Duration := s.lockTimeout.map Duration.ofMilliseconds

/-- The directory of the main repository, if it is kept on disk. -/
def repositoryDir (s : Settings) : Option String :=
  s.dataDir.map (Files.Path.join · s.repository)

/-- The directory of the working repository, if it is kept on disk. -/
def workingDir (s : Settings) : Option String :=
  s.dataDir.map (Files.Path.join · s.workingRepository)

end Settings

end GraphCommit
