/-!
# Terms of the service ontologies

The namespaces and terms by which services, their processes and file formats are described.
-/

namespace GraphCommit.Vocabulary

def xsd : String := "http://www.w3.org/2001/XMLSchema#"
def rdf : String := "http://www.w3.org/1999/02/22-rdf-syntax-ns#"
def rdfs : String := "http://www.w3.org/2000/01/rdf-schema#"
def owl : String := "http://www.w3.org/2002/07/owl#"
def formatRegistry : String := "http://www.udfr.org/onto#"
def file : String := "http://darceo.psnc.pl/ontologies/dArceoFile.owl#"
def process : String := "http://www.daml.org/services/owl-s/1.2/Process.owl#"
def service : String := "http://www.daml.org/services/owl-s/1.2/Service.owl#"
def serviceProcess : String := "http://darceo.psnc.pl/ontologies/dArceoProcess.owl#"
def serviceRegistry : String := "http://darceo.psnc.pl/ontologies/dArceoService.owl#"

/-- The short names declared in front of every query over the ontologies, in order. -/
def shortNames : List (String × String) :=
  [("xsd", xsd), ("rdf", rdf), ("rdfs", rdfs), ("owl", owl), ("udfrs", formatRegistry),
   ("dArceoFile", file), ("process", process), ("service", service),
   ("dArceoProcess", serviceProcess), ("dArceoService", serviceRegistry)]

def type : String := rdf ++ "type"

/-- The class of every file format in the format registry. -/
def fileFormat : String := formatRegistry ++ "FileFormat"

/-- A process parameter whose value comes from another input. -/
def inputParameter : String := process ++ "Input"

/-- A process parameter that is bound locally, from the input file. -/
def localParameter : String := process ++ "Local"

def fileTransformation : String := serviceRegistry ++ "FileTransformation"
def fileIn : String := serviceRegistry ++ "fileIn"
def fileOut : String := serviceRegistry ++ "fileOut"
def performedBy : String := serviceRegistry ++ "performedBy"

end GraphCommit.Vocabulary
