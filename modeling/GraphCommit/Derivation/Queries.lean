import GraphCommit.Derivation.Vocabulary

/-!
# Queries over service descriptions

The questions that are put to the working repository, and the one over the recorded
transformations.  Each takes the IRIs that it asks about, writes them in angle brackets as they
are, and returns a complete query text.  The names of the answer's columns are fixed.
-/

namespace GraphCommit.Queries

/-! ## Columns of the answers -/

def serviceColumn : String := "service"
def inputColumn : String := "inpuid"
def outputClassColumn : String := "outclass"
def fileConditionColumn : String := "infilecond"
def formatConditionColumn : String := "inoutfmtcond"
def outputFormatColumn : String := "outfmt"
def outputColumn : String := "outpuid"
def typeColumn : String := "type"

/-! ## Texts -/

/-- The declarations of the short names, each followed by a blank. -/
def declarations : String :=
  String.join (Vocabulary.shortNames.map fun entry =>
    "PREFIX " ++ entry.1 ++ ": <" ++ entry.2 ++ "> ")

/-- For every service described in `context`: its input format, its output class and the two
conditions that the output may depend on, of which the second is optional. -/
def servicesInOut (context : String) : String :=
  declarations ++
  "SELECT ?service ?inpuid ?outclass ?infilecond ?inoutfmtcond " ++
  "FROM <" ++ context ++ "> " ++
  "WHERE \x7b " ++
  "?service rdf:type service:Service; service:describedBy ?process. " ++
  "?process rdf:type process:AtomicProcess; process:hasResult ?result. " ++
  "?result process:inCondition ?condition; process:withOutput ?binding. " ++
  "?condition dArceoProcess:inputFileCondition ?infilecond. " ++
  "OPTIONAL \x7b ?condition dArceoProcess:inputOutputFormatCondition ?inoutfmtcond \x7d . " ++
  "?infilecond dArceoProcess:inputFileFormat ?inpuid. " ++
  "?binding process:valueType ?outclass. " ++
  "\x7d\n"

/-- The file formats that a class of files is restricted to. -/
def formatOfClass (class_ : String) : String :=
  declarations ++
  "SELECT ?outfmt WHERE \x7b " ++
  "<" ++ class_ ++ "> rdfs:subClassOf " ++
  "[ owl:onProperty dArceoFile:fileFormat ; owl:hasValue ?outfmt]. " ++
  "\x7d\n"

/-- The format of the input file that is bound to a local parameter. -/
def outputOfLocal (fileCondition parameter : String) : String :=
  declarations ++
  "SELECT ?outpuid WHERE \x7b " ++
  "<" ++ fileCondition ++ "> dArceoProcess:toLocalParam <" ++ parameter ++ "> ; " ++
  "dArceoProcess:inputFileFormat ?outpuid. " ++
  "\x7d\n"

/-- The output formats that an input parameter selects. -/
def outputOfInput (formatCondition parameter : String) : String :=
  declarations ++
  "SELECT ?outpuid WHERE \x7b " ++
  "<" ++ formatCondition ++ "> dArceoProcess:inputParam <" ++ parameter ++ "> ; " ++
  "dArceoProcess:outputFormat ?outpuid. " ++
  "\x7d\n"

/-- Every recorded transformation, with whatever links it has. -/
def allTransformations : String :=
  declarations ++
  "SELECT ?service ?transformation ?inpuid ?outpuid ?previous ?subsequent WHERE \x7b " ++
  "?transformation rdf:type dArceoService:FileTransformation. " ++
  "OPTIONAL \x7b ?transformation dArceoService:fileIn ?inpuid \x7d . " ++
  "OPTIONAL \x7b ?transformation dArceoService:fileOut ?outpuid \x7d . " ++
  "OPTIONAL \x7b ?transformation dArceoService:performedBy ?service \x7d . " ++
  "OPTIONAL \x7b ?transformation dArceoService:previousTransformation ?previous \x7d . " ++
  "OPTIONAL \x7b ?transformation dArceoService:subsequentTransformation ?subsequent \x7d . " ++
  "\x7d\n"

/-- Every type of `subject`. -/
def typesOf (subject : String) : String :=
  "SELECT ?type WHERE \x7b <" ++ subject ++ "> <" ++ Vocabulary.type ++ "> ?type \x7d"

/-- Whether `subject` is of the type `class_`. -/
def hasType (subject class_ : String) : String :=
  "ASK \x7b <" ++ subject ++ "> <" ++ Vocabulary.type ++ "> <" ++ class_ ++ "> \x7d"

end GraphCommit.Queries
