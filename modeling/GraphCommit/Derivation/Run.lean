import GraphCommit.Backend
import GraphCommit.Derivation.Naming
import GraphCommit.Derivation.Queries

/-!
# Derivation of transformations

When a branch did nothing but describe one service, the transformations that the service can
perform are derived from the description and written into the branch.  The documents are replayed
into the working repository, which is asked for the services with their inputs and outputs; each
transformation found is written as four triples about a resource of its own.

The output of a service is given as a class of files, whose format is a fixed one, or the value of
a parameter: an input parameter is resolved through the condition on input and output formats, a
local one through the condition on the input file, where it counts only if it is the input format.

The working repository is cleaned and shut down whatever happened before.  The first fault is
returned and the others are logged.
-/

namespace GraphCommit.Derivation

/-- A file transformation of a service. -/
structure Transformation where
  name : String
  service : String
  input : String
  output : String
  deriving DecidableEq, Repr

/-- What a derivation found. -/
structure Report where
  context : String
  transformations : List Transformation
  deriving DecidableEq, Repr

/-- How the output format of a service is given. -/
inductive ParameterKind where
  | input
  | local_
  | direct
  deriving DecidableEq, Repr

/-- The kind that the types of a format tell: the first type that is one of the two parameter
classes decides. -/
def ParameterKind.ofTypes : List Row → ParameterKind
  | [] => direct
  | row :: rest =>
    match row.get? Queries.typeColumn with
    | some type =>
      if type = Vocabulary.inputParameter then input
      else if type = Vocabulary.localParameter then local_
      else ofTypes rest
    | none => ofTypes rest

/-- The value of a column that must not be empty. -/
def required (row : Row) (column : String) : Except Fault String :=
  match row.get? column with
  | some value => .ok value
  | none => .error (.derivation ("variable `" ++ column ++ "` is unbound in " ++ row.text))

/-- The four triples that describe a transformation. -/
def Transformation.triples (t : Transformation) : List Triple :=
  [⟨t.name, Vocabulary.type, Vocabulary.fileTransformation⟩,
   ⟨t.name, Vocabulary.fileIn, t.input⟩,
   ⟨t.name, Vocabulary.fileOut, t.output⟩,
   ⟨t.name, Vocabulary.performedBy, t.service⟩]

/-! ## One pass -/

/-- What a pass works with: its context, the client of the working repository and the client that
the transformations are written to. -/
structure Scope where
  context : String
  working : ClientId
  target : ClientId

/-- How far a pass has come: the stores and the log, the numbers given out, the classes whose
instance has been typed, and the transformations found. -/
structure Pass (S : Type) where
  outside : Outside S
  counter : Counter := Counter.empty
  typed : List String := []
  found : List Transformation := []

/-- A step of a pass. -/
abbrev Step (S α : Type) := ExceptT Fault (StateM (Pass S)) α

namespace Step

variable {S α : Type}

/-- A job within a pass. -/
def job (j : Job S α) : Step S α := fun pass =>
  let (result, outside) := j pass.outside
  (result, { pass with outside })

/-- A value, or the fault for which there is none. -/
def given (value : Except Fault α) : Step S α := fun pass => (value, pass)

end Step

section

variable {S : Type} [Backend S]

/-- Commits to the working repository. -/
def commitWorking (scope : Scope) : Job S Unit :=
  (scope.working.act .commit).relabel fun f =>
    .derivation ("cannot commit to the working repository: " ++ f.message)

/-- Loads a document of the branch into the working repository and leaves other writes out. -/
def replay (scope : Scope) (w : Write) : Step S Unit :=
  if w.isAddData then do
    Step.job (scope.working.write w)
    Step.job (commitWorking scope)
  else pure ()

/-- Types the instance of an output class, once in a pass. -/
def typeInstance (scope : Scope) (class_ : String) : Step S Unit := do
  if (← get).typed.contains class_ then return ()
  let name ← Step.given (instanceOf class_)
  Step.job (scope.working.write (.addTriple ⟨name, Vocabulary.type, class_⟩ scope.context))
  Step.job (commitWorking scope)
  modify fun pass => { pass with typed := class_ :: pass.typed }

/-- Gives a transformation its name, writes it and remembers it. -/
def record (scope : Scope) (service input output : String) : Step S Unit := do
  let (number, counter) := (← get).counter.next service
  modify fun pass => { pass with counter }
  let t : Transformation := ⟨transformationName service number, service, input, output⟩
  t.triples.forM fun triple => Step.job (scope.target.write (.addTriple triple scope.context))
  Step.job (Job.note .debug Record.derivations
    (t.name ++ " transforms " ++ input ++ " into " ++ output))
  modify fun pass => { pass with found := pass.found ++ [t] }

/-- The transformations of a service whose output is chosen by an input parameter. -/
def resolveInput (scope : Scope) (row : Row) (service input output : String) : Step S Unit := do
  match row.get? Queries.formatConditionColumn with
  | none =>
    Step.job (Job.note .debug Record.derivations
      (service ++ " has no input/output format condition"))
  | some condition =>
    let rows ← Step.job (scope.working.select (Queries.outputOfInput condition output))
    rows.forM fun resolved => do
      let value ← Step.given (required resolved Queries.outputColumn)
      record scope service input value

/-- The transformations of a service whose output is bound to its input file. -/
def resolveLocal (scope : Scope) (row : Row) (service input output : String) : Step S Unit := do
  let condition ← Step.given (required row Queries.fileConditionColumn)
  let rows ← Step.job (scope.working.select (Queries.outputOfLocal condition output))
  rows.forM fun resolved => do
    let value ← Step.given (required resolved Queries.outputColumn)
    if value = input then record scope service input value

/-- The transformations into one format that an output class allows. -/
def deriveFormat (scope : Scope) (row : Row) (service input : String) (format : Row) :
    Step S Unit := do
  let output ← Step.given (required format Queries.outputFormatColumn)
  let isFormat ← Step.job (scope.working.ask (Queries.hasType output Vocabulary.fileFormat))
  if !isFormat then
    Step.job (Job.note .debug Record.derivations ("the type of file " ++ output ++ " is incorrect"))
  else
    let types ← Step.job (scope.working.select (Queries.typesOf output))
    match ParameterKind.ofTypes types with
    | .input => resolveInput scope row service input output
    | .local_ => resolveLocal scope row service input output
    | .direct => record scope service input output

/-- The transformations of one service description. -/
def deriveService (scope : Scope) (row : Row) : Step S Unit := do
  let service ← Step.given (required row Queries.serviceColumn)
  let input ← Step.given (required row Queries.inputColumn)
  let class_ ← Step.given (required row Queries.outputClassColumn)
  typeInstance scope class_
  let formats ← Step.job (scope.working.select (Queries.formatOfClass class_))
  formats.forM (deriveFormat scope row service input)

/-- Replays the writes of a branch and derives the transformations of its services. -/
def pass (scope : Scope) (writes : List Write) : Step S Unit := do
  writes.forM (replay scope)
  let services ← Step.job (scope.working.select (Queries.servicesInOut scope.context))
  services.forM (deriveService scope)

/-- The result of a pass and the transformations that it found before it ended. -/
def runPass (scope : Scope) (writes : List Write) :
    Job S (Except Fault Unit × List Transformation) := fun outside =>
  let (result, done) := pass scope writes { outside }
  (.ok (result, done.found), done.outside)

/-! ## A whole derivation -/

/-- Empties the context of the working repository. -/
def clean (scope : Scope) : Job S Unit :=
  Job.relabel (fun f => .derivation ("cannot clean the working repository: " ++ f.message)) do
    scope.working.write (.clear scope.context)
    scope.working.act .commit
    scope.working.act .disconnect

/-- Logs a fault under a heading. -/
def logFault {α : Type} (heading : String) : Except Fault α → Job S Unit
  | .ok _ => pure ()
  | .error f => Job.note .error Record.derivations (heading ++ ": " ++ f.message)

/-- The first of two outcomes that is a fault, or success. -/
def firstFault : Except Fault Unit → Except Fault Unit → Except Fault Unit
  | .ok _, second => second
  | .error f, _ => .error f

/-- Derives the transformations of the services described in a context by the given writes and
writes them through the target client, uncommitted. -/
def run (target : ClientId) (context : String) (writes : List Write) : Job S Report := do
  Job.note .debug Record.derivations ("materializing transformations of context " ++ context)
  let working ← (Job.call Backend.openWorking).relabel fun f =>
    .derivation ("cannot open the working repository: " ++ f.message)
  let scope : Scope := ⟨context, working, target⟩
  let (derived, found) ← runPass scope writes
  logFault ("materialization of context " ++ context ++ " failed") derived
  let cleaned ← (clean scope).observe
  logFault "cannot clean the working repository" cleaned
  let shutDown ← (Job.call Backend.shutDownWorking).observe
  logFault "cannot shut down the working repository" shutDown
  let reported := shutDown.mapError fun f =>
    .derivation ("cannot shut down the working repository: " ++ f.message)
  match firstFault (firstFault derived cleaned) reported with
  | .error f => throw f
  | .ok _ =>
    Job.note .info Record.derivations
      ("derived " ++ toString found.length ++ " transformations from context " ++ context)
    return ⟨context, found⟩

end

end GraphCommit.Derivation
