import GraphCommit.Document.Location
import GraphCommit.Text.Hex
import GraphCommit.Text.Split

/-!
# URLs of local files

A fetcher for documents on this machine.  The URL of a file is cleaned, its host is taken off, its
dot segments are resolved, and what is left is decoded name by name.  A host has to be empty or
`localhost`, written in ASCII.  Documents of other machines are not downloaded.
-/

namespace GraphCommit.Document

namespace FileUrl

/-- Whether a segment of a path is a dot, which may be percent-encoded. -/
def isDot (segment : List Char) : Bool :=
  [".", "%2e"].contains (String.ofList (segment.map Char.toLower))

def isDoubleDot (segment : List Char) : Bool :=
  ["..", ".%2e", "%2e.", "%2e%2e"].contains (String.ofList (segment.map Char.toLower))

/-- Whether a segment names a drive: a letter, and a colon or a bar. -/
def isDrive : List Char → Bool
  | [letter, c] => letter.isAlpha && (c == ':' || c == '|')
  | _ => false

/-- Writes the name of a drive with a colon. -/
def normalizeDrive (segment : List Char) : List Char :=
  if isDrive segment then segment.take 1 ++ [':'] else segment

/-- The segments without dot segments, behind others that are kept in reverse.  A drive at the
beginning is never left, and a dot segment at the end leaves an empty one. -/
def walk (kept : List (List Char)) : List (List Char) → List (List Char)
  | [] => kept.reverse
  | segment :: rest =>
    if isDoubleDot segment then
      let kept := match kept with
        | [drive] => if isDrive drive then kept else []
        | _ => kept.drop 1
      walk (if rest.isEmpty then [] :: kept else kept) rest
    else if isDot segment then walk (if rest.isEmpty then [] :: kept else kept) rest
    else walk ((if kept.isEmpty then normalizeDrive segment else segment) :: kept) rest

/-- The bytes of a text whose percent-encoded bytes are decoded. -/
def decode : List Char → List UInt8
  | '%' :: a :: b :: rest =>
    match Text.Hex.value? a, Text.Hex.value? b with
    | some h, some l => UInt8.ofNat (16 * h + l) :: decode rest
    | _, _ => String.utf8EncodeChar '%' ++ decode (a :: b :: rest)
  | c :: rest => String.utf8EncodeChar c ++ decode rest
  | [] => []

/-- The text of the bytes of a name.  Bytes that are no text make a name that no file has, of which
the ASCII characters can be read. -/
def textOf (bytes : List UInt8) : String :=
  (String.fromUTF8? ⟨bytes.toArray⟩).getD
    (String.ofList (bytes.map fun b => if b < 128 then Char.ofNat b.toNat else '\uFFFD'))

/-- The URL without what does not count in it: blanks at its end, line ends and tabulators, and the
query and the fragment. -/
def clean (text : List Char) : List Char :=
  let trimmed := (text.reverse.dropWhile (fun c => c.toNat ≤ 32)).reverse
  let plain := trimmed.filter fun c => c != '\t' && c != '\n' && c != '\r'
  (plain.takeWhile fun c => c != '?' && c != '#').map fun c => if c = '\\' then '/' else c

/-- The path of a URL behind its host, or nothing if the host is another machine. -/
def localPart? (text : List Char) : Option (List Char) :=
  match text with
  | '/' :: '/' :: rest =>
    let host := rest.takeWhile (· != '/')
    let path := rest.dropWhile (· != '/')
    if isDrive host then some ('/' :: rest)
    else
      let name := (textOf (decode host)).toList.map Char.toLower
      if name.isEmpty || name == "localhost".toList then some path else none
  | _ => some text

/-- The segments of a path; what leads up to the first is left out. -/
def segments (path : List Char) : List (List Char) :=
  match path with
  | '/' :: rest => walk [] (Text.splitOn '/' rest)
  | _ => walk [] (Text.splitOn '/' path)

/-- The path of a file from the root.  One that seems to end in a drive is a directory. -/
def join (segments : List (List Char)) : List Char :=
  let path := segments.flatMap ('/' :: ·)
  match path.reverse with
  | c :: letter :: _ :: _ => if isDrive [letter, c] then path ++ ['/'] else path
  | _ => path

/-- The path of the local file that a URL names, by the text behind its scheme. -/
def path? (text : List Char) : Option String := do
  let path ← localPart? (clean text)
  return String.ofList (join ((segments path).map fun s => (textOf (decode s)).toList))

end FileUrl

/-- Fetches from this machine alone. -/
@[reducible]
def Fetcher.offline : Fetcher where
  path? url := FileUrl.path? (url.toList.drop "file:".length)
  download _ := .error "remote RDF documents are not supported"

end GraphCommit.Document
