import GraphCommit.Text.LowerCase

/-!
# Where a document is, and its syntax

A reference to a document is the URL of a local file, the URL of a remote document, or a path that
is taken as it is.  Which file a URL names, and what a remote document holds, is for a `Fetcher` to
say.  The syntax of the document is told by the extension of the last component of the reference,
from which a query and a fragment are cut off first.
-/

namespace GraphCommit.Document

/-- What documents are fetched with: a reader of URLs, and a connection to other machines. -/
class Fetcher where
  /-- The path of the local file that a `file:` URL names, if it names one. -/
  path? (url : String) : Option String
  /-- The bytes of a remote document, or why it cannot be downloaded. -/
  download (url : String) : Except String (List UInt8)

/-! ## References -/

/-- Where a reference leads. -/
inductive Location where
  | file (path : String)
  | remote
  /-- A file of another machine, or a malformed URL. -/
  | elsewhere
  deriving DecidableEq, Repr

/-- Whether a reference begins like this. -/
def begins (beginning reference : String) : Bool := beginning.toList.isPrefixOf reference.toList

/-- Where a document is found. -/
def Location.of [Fetcher] (reference : String) : Location :=
  if begins "http://" reference || begins "https://" reference then remote
  else if begins "file:" reference then
    match Fetcher.path? reference with
    | some path => file path
    | none => elsewhere
  else file reference

/-! ## Syntax -/

inductive Format where
  | turtle
  /-- One triple a line. -/
  | lines
  | xml
  deriving DecidableEq, Repr

namespace Format

/-- The syntax that an extension in lower case stands for. -/
def ofExtension (extension : String) : Format :=
  if extension = "ttl" then turtle
  else if extension = "nt" ∨ extension = "txt" then lines
  else xml

/-- The text behind the last occurrence of a character, if there is one. -/
def afterLast? (c : Char) (text : List Char) : Option (List Char) :=
  if text.contains c then some (text.reverse.takeWhile (· != c)).reverse else none

/-- The syntax of a file by its name. -/
def ofName (name : List Char) : Format :=
  match afterLast? '.' name with
  | some extension => ofExtension (String.ofList (Text.LowerCase.ofText extension))
  | none => xml

/-- The syntax of the document at a reference. -/
def ofReference (reference : String) : Format :=
  let path := reference.toList.takeWhile fun c => c != '?' && c != '#'
  ofName ((afterLast? '/' path).getD path)

end Format

end GraphCommit.Document
