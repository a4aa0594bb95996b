import GraphCommit.Fault
import GraphCommit.Text.LowerCase

/-!
# Names of derived resources

The instance of a class and the transformations of a service get names of their own.  A class name
is split behind its first number sign, else behind its last slash, else behind its last colon; the
instance's name has the first letter of the local part in lower case and ends in `Instance`.  The
transformations of a service are numbered from one, each service for itself.
-/

namespace GraphCommit.Derivation

/-- The text up to and with the first `c`, and the text behind it. -/
def splitFirst (c : Char) : List Char → Option (List Char × List Char)
  | [] => none
  | d :: rest =>
    if d = c then some ([d], rest)
    else (splitFirst c rest).map fun (before, after) => (d :: before, after)

/-- The text up to and with the last `c`, and the text behind it. -/
def splitLast (c : Char) : List Char → Option (List Char × List Char)
  | [] => none
  | d :: rest =>
    match splitLast c rest with
    | some (before, after) => some (d :: before, after)
    | none => if d = c then some ([d], rest) else none

/-- The namespace of a class and its local name. -/
def splitClass? (name : List Char) : Option (List Char × List Char) :=
  (splitFirst '#' name).or ((splitLast '/' name).or (splitLast ':' name))

def lowerFirst : List Char → List Char
  | [] => []
  | c :: rest => Text.LowerCase.ofChar c ++ rest

/-- The name of the one instance of a class. -/
def instanceOf (class_ : String) : Except Fault String :=
  match splitClass? class_.toList with
  | some (space, name) => .ok (String.ofList (space ++ lowerFirst name) ++ "Instance")
  | none => .error (.derivation ("No separator character found in URI: " ++ class_))

/-- How many transformations of each service have been numbered.  A number has 32 bits where it is
kept, so a service can have no more than `Counter.limit` of them.  Here the counter just counts on;
`Counter.next_le_limit` says for how long that makes no difference. -/
structure Counter where
  counts : List (String × Nat)
  deriving Repr, Inhabited

namespace Counter

/-- The largest number of 32 bits. -/
def limit : Nat := UInt32.size - 1

def empty : Counter := ⟨[]⟩

def count (c : Counter) (service : String) : Nat := (c.counts.lookup service).getD 0

/-- The next number of a service. -/
def next (c : Counter) (service : String) : Nat × Counter :=
  let n := c.count service + 1
  (n, ⟨(service, n) :: c.counts.filter (fun entry => entry.1 != service)⟩)

end Counter

/-- The name of the transformation of a service with the given number. -/
def transformationName (service : String) (n : Nat) : String :=
  service ++ "Transformation" ++ toString n

end GraphCommit.Derivation
