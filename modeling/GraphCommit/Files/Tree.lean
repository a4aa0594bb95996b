import GraphCommit.Files.Path

/-!
# A tree of files

The part of a file system that the repositories look at: directories, documents and devices, each
at its place below the root.  A path is walked name by name, so that a name behind something that
is no directory is told from a name that is not there.
-/

namespace GraphCommit.Files

/-- Why an operation on files failed. -/
inductive Error where
  | notFound
  | exists_
  | notDirectory
  | isDirectory
  | nulByte
  deriving DecidableEq, Repr

def Error.message : Error → String
  | notFound => "No such file or directory (os error 2)"
  | exists_ => "File exists (os error 17)"
  | notDirectory => "Not a directory (os error 20)"
  | isDirectory => "Is a directory (os error 21)"
  | nulByte => "file name contained an unexpected NUL byte"

/-- What is found at a place. -/
inductive Node where
  | directory
  | document (bytes : List UInt8)
  /-- A device that yields nothing when it is read. -/
  | device
  deriving DecidableEq, Repr

/-- A place in the tree: the names from the root downwards. -/
abbrev Place := List String

end Files

/-- A tree of files with a current directory.  The root is always a directory. -/
structure Files where
  nodes : List (Files.Place × Files.Node)
  current : Files.Place
  deriving Repr, Inhabited

namespace Files

/-- The tree that holds nothing but the null device and an empty current directory. -/
def bare : Files where
  nodes := [(["dev"], .directory), (["dev", "null"], .device), (["current"], .directory)]
  current := ["current"]

def node? (files : Files) (place : Place) : Option Node :=
  if place.isEmpty then some .directory else files.nodes.lookup place

/-- Adds or replaces a node. -/
def put (files : Files) (place : Place) (node : Node) : Files :=
  { files with nodes := (place, node) :: files.nodes.filter (fun entry => entry.1 != place) }

/-- Makes the directories on the way to a place that are not there yet. -/
def putParents (files : Files) (place : Place) : Files :=
  (List.range place.length).foldl
    (fun files n =>
      let parent := place.take n
      if (files.node? parent).isSome then files else files.put parent .directory)
    files

/-- Puts a document at a place, with the directories above it. -/
def putDocument (files : Files) (place : Place) (bytes : List UInt8) : Files :=
  (files.putParents place).put place (.document bytes)

def putDirectory (files : Files) (place : Place) : Files :=
  (files.putParents place).put place .directory

/-- Follows names downwards from a place.  An empty name and a single dot stay in a directory, a
double dot goes up. -/
def walk (files : Files) (place : Place) : List String → Except Error (Place × Node)
  | [] =>
    match files.node? place with
    | some node => .ok (place, node)
    | none => .error .notFound
  | name :: rest =>
    match files.node? place with
    | none => .error .notFound
    | some .directory =>
      if name = "" ∨ name = "." then walk files place rest
      else if name = ".." then walk files place.dropLast rest
      else walk files (place ++ [name]) rest
    | some _ => .error .notDirectory

/-- The place that a path leads to, with what is there. -/
def find (files : Files) (path : String) : Except Error (Place × Node) :=
  if path.toList.contains '\x00' then .error .nulByte
  else if path.isEmpty then .error .notFound
  else walk files (if Path.isAbsolute path then [] else files.current) (Path.names path)

def exists_ (files : Files) (path : String) : Bool := (files.find path).isOk

def isDirectory (files : Files) (path : String) : Bool :=
  match files.find path with
  | .ok (_, .directory) => true
  | _ => false

/-- The bytes of the document at a path. -/
def read (files : Files) (path : String) : Except Error (List UInt8) :=
  match files.find path with
  | .error e => .error e
  | .ok (_, .directory) => .error .isDirectory
  | .ok (_, .document bytes) => .ok bytes
  | .ok (_, .device) => .ok []

/-- Makes every directory on the way from a place that is missing.  Something else than a directory
in the way is a fault: as the last name because it exists, before that because it is no
directory. -/
def makeAlong (files : Files) (place : Place) : List String → Except Error Files
  | [] =>
    match files.node? place with
    | some .directory => .ok files
    | some _ => .error .exists_
    | none => .ok (files.put place .directory)
  | name :: rest =>
    match files.node? place with
    | some .directory =>
      if name = "" ∨ name = "." then makeAlong files place rest
      else if name = ".." then makeAlong files place.dropLast rest
      else makeAlong files (place ++ [name]) rest
    | some _ => .error .notDirectory
    | none =>
      let files := files.put place .directory
      if name = "" ∨ name = "." then makeAlong files place rest
      else if name = ".." then makeAlong files place.dropLast rest
      else makeAlong files (place ++ [name]) rest

/-- The names of a path without the empty ones at its end. -/
def namesToMake (path : String) : List String :=
  ((Path.names path).reverse.dropWhile (· == "")).reverse

/-- Makes the directory at a path and those above it. -/
def makeDirectories (files : Files) (path : String) : Except Error Files :=
  if path.toList.contains '\x00' then .error .nulByte
  else if path.isEmpty then .ok files
  else makeAlong files (if Path.isAbsolute path then [] else files.current) (namesToMake path)

end Files

end GraphCommit
