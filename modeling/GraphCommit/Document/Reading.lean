import GraphCommit.Document.Lines
import GraphCommit.Document.Location
import GraphCommit.Document.RdfXml
import GraphCommit.Fault
import GraphCommit.Files.Tree

/-!
# Reading documents

A document is fetched as a whole and then read in its syntax; it is read completely or not at all.
-/

namespace GraphCommit.Document

/-- The bytes of the document at a reference. -/
def fetch [Fetcher] (files : Files) (reference : String) : Except Fault (List UInt8) :=
  match Location.of reference with
  | .remote => (Fetcher.download reference).mapError (.download reference)
  | .elsewhere => .error (.download reference "not a local file URL")
  | .file path => (files.read path).mapError fun e => .download reference e.message

/-- What a text in a syntax says. -/
def Format.read (format : Format) (base : Option (List Char)) (text : String) :
    Option Turtle.Contents :=
  match format with
  | .turtle => Turtle.read base text
  | .lines => Lines.read text
  | .xml => RdfXml.read base text

/-- What bytes in a syntax say.  The base is an absolute IRI, or empty if there is none. -/
def parse? (format : Format) (base : String) (bytes : List UInt8) : Option Turtle.Contents := do
  if !base.isEmpty && !Iri.isAbsolute base.toList then none
  let text ← String.fromUTF8? ⟨bytes.toArray⟩
  format.read (if base.isEmpty then none else some base.toList) text

/-- What the document at a reference says. -/
def read [Fetcher] (files : Files) (reference base : String) : Except Fault Turtle.Contents := do
  let bytes ← fetch files reference
  match parse? (.ofReference reference) base bytes with
  | some contents => return contents
  | none => throw (.parse reference none)

end GraphCommit.Document
