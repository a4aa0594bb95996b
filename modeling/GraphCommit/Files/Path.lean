import GraphCommit.Text.Split

/-!
# Names of files

A path is a text of names separated by slashes; one that begins with a slash is absolute.  Paths
are joined as texts and never simplified.
-/

namespace GraphCommit.Files.Path

def isAbsolute (path : String) : Bool :=
  match path.toList with
  | '/' :: _ => true
  | _ => false

def endsInSlash (path : List Char) : Bool := path.getLast? == some '/'

/-- The path of `name` in the directory `dir`: an absolute name stands for itself, any other is
put behind the directory, with a slash between unless one is there already. -/
def join (dir name : String) : String :=
  if isAbsolute name then name
  else if dir.isEmpty || endsInSlash dir.toList then dir ++ name
  else dir ++ "/" ++ name

/-- The names of a path in order.  A leading slash, a doubled one and one at the end leave an empty
name. -/
def names (path : String) : List String := (Text.splitOn '/' path.toList).map String.ofList

end GraphCommit.Files.Path
