import GraphCommit.Iri.Characters
import GraphCommit.Text.Split

/-!
# IRIs and their references

A reference is split into scheme, authority, path, query and fragment at its delimiters.  It is
well formed when each part keeps to its grammar, and an absolute one has a scheme.  A relative
reference is resolved against a base: what it leaves out is taken from the base, and the dot
segments of a path that was put together are removed.  A reference with a scheme or an authority of
its own is kept as it is.
-/

namespace GraphCommit.Iri

open Text

/-- A reference in its parts, without their delimiters. -/
structure Reference where
  scheme : Option (List Char)
  authority : Option (List Char)
  path : List Char
  query : Option (List Char)
  fragment : Option (List Char)
  deriving DecidableEq, Repr

/-- The text before the first character of the given kind, and the text from there on. -/
def breakAt (stop : Char → Bool) (text : List Char) : List Char × List Char :=
  (text.takeWhile (fun c => !stop c), text.dropWhile (fun c => !stop c))

def isScheme : List Char → Bool
  | [] => false
  | c :: rest => c.isAlpha && rest.all isSchemeCharacter

/-- The scheme of a text, if it begins with one, and the text behind its colon. -/
def splitScheme (text : List Char) : Option (List Char) × List Char :=
  match breakAt (fun c => !isSchemeCharacter c) text with
  | (scheme, ':' :: rest) => if isScheme scheme then (some scheme, rest) else (none, text)
  | _ => (none, text)

def splitAuthority : List Char → Option (List Char) × List Char
  | '/' :: '/' :: rest =>
    let (authority, rest) := breakAt (fun c => c == '/' || c == '?' || c == '#') rest
    (some authority, rest)
  | text => (none, text)

/-- What follows a delimiter that the text begins with. -/
def behind (delimiter : Char) : List Char → Option (List Char)
  | [] => none
  | c :: rest => if c = delimiter then some rest else none

/-- The parts of a reference. -/
def Reference.ofText (text : List Char) : Reference :=
  let (scheme, rest) := splitScheme text
  let (authority, rest) := splitAuthority rest
  let (path, rest) := breakAt (fun c => c == '?' || c == '#') rest
  let (before, after) := breakAt (· == '#') rest
  ⟨scheme, authority, path, behind '?' before, behind '#' after⟩

/-- The text of a reference. -/
def Reference.toText (r : Reference) : List Char :=
  (match r.scheme with | some s => s ++ [':'] | none => []) ++
  (match r.authority with | some a => '/' :: '/' :: a | none => []) ++
  r.path ++
  (match r.query with | some q => '?' :: q | none => []) ++
  (match r.fragment with | some f => '#' :: f | none => [])

/-! ## Hosts -/

/-- A group of an IPv6 address: up to four hexadecimal digits. -/
def isGroup (text : List Char) : Bool :=
  !text.isEmpty && text.length ≤ 4 && text.all (fun c => (Text.Hex.value? c).isSome)

/-- A number of an IPv4 address, below 256 and without leading zeros. -/
def isOctet (text : List Char) : Bool :=
  !text.isEmpty && text.length ≤ 3 && text.all Char.isDigit &&
    (text.length == 1 || text.head? != some '0') &&
    text.foldl (fun n c => 10 * n + (c.toNat - 48)) 0 < 256

def isIpv4 (text : List Char) : Bool :=
  let parts := splitOn '.' text
  parts.length == 4 && parts.all isOctet

/-- How many 16-bit groups a row of groups stands for, the last of which may be an IPv4 address. -/
def groupCount : List (List Char) → Bool → Option Nat
  | [], _ => some 0
  | [last], mayEndInIpv4 =>
    if isGroup last then some 1
    else if mayEndInIpv4 && isIpv4 last then some 2
    else none
  | g :: rest, mayEndInIpv4 =>
    if isGroup g then (groupCount rest mayEndInIpv4).map (· + 1) else none

/-- The text before and behind the first doubled colon. -/
def splitGap : List Char → Option (List Char × List Char)
  | [] => none
  | ':' :: ':' :: rest => some ([], rest)
  | c :: rest => (splitGap rest).map fun (before, after) => (c :: before, after)

def groups (text : List Char) : List (List Char) := if text.isEmpty then [] else splitOn ':' text

/-- An IPv6 address: eight groups, or fewer around one gap. -/
def isIpv6 (text : List Char) : Bool :=
  match splitGap text with
  | none => groupCount (groups text) true == some 8 && !text.isEmpty
  | some (before, after) =>
    match groupCount (groups before) false, groupCount (groups after) true with
    | some m, some n => m + n < 8
    | _, _ => false

/-- An address of a later version of the protocol. -/
def isFutureAddress : List Char → Bool
  | c :: rest =>
    (c == 'v' || c == 'V') &&
      match breakAt (· == '.') rest with
      | (version, '.' :: address) =>
        !version.isEmpty && version.all (fun d => (Text.Hex.value? d).isSome) &&
          !address.isEmpty &&
          address.all (fun d => isUnreservedAscii d || isSubDelimiter d || d == ':')
      | _ => false
  | [] => false

/-- What may follow a host: nothing, or a colon and digits. -/
def isHostEnd : List Char → Bool
  | [] => true
  | ':' :: digits => digits.all Char.isDigit
  | _ => false

/-- A host, with a number behind a colon or without. -/
def isHost (text : List Char) : Bool :=
  match text with
  | '[' :: rest =>
    match breakAt (· == ']') rest with
    | (address, ']' :: rest) => (isIpv6 address || isFutureAddress address) && isHostEnd rest
    | _ => false
  | _ =>
    let (name, rest) := breakAt (· == ':') text
    allAllowed isRegisteredName name && isHostEnd rest

/-- An authority: a host, behind the information on a user if there is an at sign. -/
def isAuthority (text : List Char) : Bool :=
  match breakAt (· == '@') text with
  | (user, '@' :: host) => allAllowed isUserInfo user && isHost host
  | _ => isHost text

/-- Whether every part keeps to its grammar. -/
def Reference.isWellFormed (r : Reference) : Bool :=
  r.authority.all isAuthority && allAllowed isPath r.path &&
    r.query.all (allAllowed isQuery) && r.fragment.all (allAllowed isFragment)

/-- Whether a text is an absolute IRI. -/
def isAbsolute (text : List Char) : Bool :=
  let r := Reference.ofText text
  r.scheme.isSome && r.isWellFormed

/-! ## Resolution -/

/-- The path without its last segment, up to and with the last slash. -/
def withoutLast (path : List Char) : List Char :=
  (path.reverse.dropWhile (· != '/')).reverse

/-- The segments of a path with its dot segments carried out on those before them, which are
reversed.  Nothing is above the root. -/
def dropDots (kept : List (List Char)) : List (List Char) → List (List Char)
  | [] => kept.reverse
  | ['.'] :: [] => ([] :: kept).reverse
  | ['.', '.'] :: [] => ([] :: kept.drop 1).reverse
  | ['.'] :: rest => dropDots kept rest
  | ['.', '.'] :: rest => dropDots (kept.drop 1) rest
  | segment :: rest => dropDots (segment :: kept) rest

/-- A path without dot segments. -/
def removeDots (path : List Char) : List Char :=
  match path with
  | '/' :: rest => '/' :: joinOn '/' (dropDots [] (splitOn '/' rest))
  | _ => joinOn '/' (dropDots [] (splitOn '/' path))

/-- A relative path behind the path of a base. -/
def merge (base : Reference) (path : List Char) : List Char :=
  if base.authority.isSome && base.path.isEmpty then '/' :: path
  else withoutLast base.path ++ path

/-- The reference `r`, seen from the base. -/
def resolve (base r : Reference) : Reference :=
  if r.scheme.isSome then r
  else if r.authority.isSome then { r with scheme := base.scheme }
  else if r.path.isEmpty then
    { base with query := r.query.or base.query, fragment := r.fragment }
  else
    let path :=
      match r.path with
      | '/' :: _ => removeDots r.path
      | _ => removeDots (merge base r.path)
    { base with path, query := r.query, fragment := r.fragment }

/-- The absolute IRI that a text means in a document with the given base.  Without a base only an
absolute one means anything. -/
def absolute? (base : Option (List Char)) (text : List Char) : Option (List Char) :=
  let r := Reference.ofText text
  if !r.isWellFormed then none
  else if r.scheme.isSome then some text
  else base.map fun b => (resolve (Reference.ofText b) r).toText

end GraphCommit.Iri
