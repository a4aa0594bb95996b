import GraphCommit.Settings
import GraphCommit.Text.LowerCase
import GraphCommit.Text.Number

/-!
# Settings from the environment

Five variables set one field each; a variable that is not set leaves the default.  An empty data
directory counts as not set.
-/

namespace GraphCommit.Settings

def dataVariable : String := "RDFXA_DATA"
def repositoryVariable : String := "RDFXA_REPOSITORY"
def workingVariable : String := "RDFXA_WORKING_REPOSITORY"
def deriveVariable : String := "RDFXA_DERIVE_TRANSFORMATIONS"
def lockTimeoutVariable : String := "RDFXA_LOCK_TIMEOUT_MS"

/-- The words for yes and no. -/
def booleanWords : List (String × Bool) :=
  [("true", true), ("1", true), ("yes", true), ("on", true),
   ("false", false), ("0", false), ("no", false), ("off", false)]

/-- A text without the white space around it, in lower case. -/
def folded (value : String) : String :=
  String.ofList (Text.LowerCase.ofText (Text.trim value.toList))

def readBoolean (name value : String) : Except Error Bool :=
  match booleanWords.lookup (folded value) with
  | some b => .ok b
  | none => .error (.notABoolean name (folded value))

def readMilliseconds (name value : String) : Except Error Nat :=
  match Text.Number.read (Nat.pow 2 64) (Text.trim value.toList) with
  | .ok n => .ok n
  | .error e => .error (.notMilliseconds name e.message)

/-- The settings that the variables spell out. -/
def ofEnvironment (files : Files) (assigned : String → Option String) :
    Except Error Settings := do
  let default : Settings := {}
  let dataDir := (assigned dataVariable).filter (fun dir => !dir.isEmpty)
  let repository := (assigned repositoryVariable).getD default.repository
  let workingRepository := (assigned workingVariable).getD default.workingRepository
  let derive ←
    match assigned deriveVariable with
    | some value => readBoolean deriveVariable value
    | none => .ok default.derive
  let lockTimeout ←
    match assigned lockTimeoutVariable with
    | some value => (readMilliseconds lockTimeoutVariable value).map some
    | none => .ok none
  validate files { dataDir, repository, workingRepository, derive, lockTimeout }

end GraphCommit.Settings
