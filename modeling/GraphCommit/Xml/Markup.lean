import GraphCommit.Text.Hex
import GraphCommit.Text.Split
import GraphCommit.Turtle.Characters

/-!
# XML markup

An XML text is a row of tags and of character data between them.  Comments and processing
instructions are left out.  References to characters and entities are replaced by what they stand
for; a document type may declare more entities than the five that are always there.
-/

namespace GraphCommit.Xml

/-- A tag, or the text between two. -/
inductive Markup where
  | opening (name : String) (attributes : List (String × String)) (isEmpty : Bool)
  | closing (name : String)
  | text (value : List Char)
  deriving DecidableEq, Repr

namespace Markup

/-- The entities with their values. -/
abbrev Entities := List (String × List Char)

def predefined : Entities :=
  [("lt", ['<']), ("gt", ['>']), ("amp", ['&']), ("apos", ['\'']), ("quot", ['"'])]

/-! ## References -/

/-- The number that digits of the given base spell out. -/
def number? (base : Nat) (digits : List Char) : Option Nat := do
  if digits.isEmpty then none
  let values ← digits.mapM Text.Hex.value?
  if values.all (· < base) then some (values.foldl (fun n d => base * n + d) 0) else none

/-- What a reference stands for, by the text between its ampersand and its semicolon. -/
def resolve (entities : Entities) (name : List Char) : Option (List Char) :=
  let character (n : Option Nat) : Option (List Char) :=
    n.bind fun n => if n.isValidChar && n != 0 then some [Char.ofNat n] else none
  match name with
  | '#' :: 'x' :: digits => character (number? 16 digits)
  | '#' :: digits => character (number? 10 digits)
  | _ => entities.lookup (String.ofList name)

/-- Replaces the references in a text.  `fuel` is at least the length of the text. -/
def replace (entities : Entities) (fuel : Nat) (text : List Char) : Option (List Char) :=
  match fuel, text with
  | _, [] => some []
  | 0, _ => none
  | fuel + 1, '&' :: rest => do
    match rest.dropWhile (· != ';') with
    | ';' :: after =>
      let value ← resolve entities (rest.takeWhile (· != ';'))
      return value ++ (← replace entities fuel after)
    | _ => none
  | fuel + 1, c :: rest => do return c :: (← replace entities fuel rest)

def unescape (entities : Entities) (text : List Char) : Option (List Char) :=
  replace entities text.length text

/-! ## Names and tags -/

def isName (c : Char) : Bool := Turtle.isNameInner c || c == '.' || c == ':'

/-- The name at the beginning of a text. -/
def name? (text : List Char) : Option (String × List Char) :=
  match text with
  | c :: _ =>
    if Turtle.isNameStart c || c == ':' then
      some (String.ofList (text.takeWhile isName), text.dropWhile isName)
    else none
  | [] => none

def trim (text : List Char) : List Char := text.dropWhile Turtle.isBlank

/-- The value of an attribute behind its equals sign. -/
def value? (entities : Entities) (text : List Char) : Option (String × List Char) := do
  match trim text with
  | quote :: rest =>
    if quote ≠ '"' ∧ quote ≠ '\'' then none
    match rest.dropWhile (· != quote) with
    | _ :: after =>
      return (String.ofList (← unescape entities (rest.takeWhile (· != quote))), after)
    | [] => none
  | [] => none

/-- The attributes of a tag, whether it is empty, and the text behind it.  No attribute is given
twice. -/
def attributes (entities : Entities) (read : List (String × String)) :
    Nat → List Char → Option (List (String × String) × Bool × List Char)
  | 0, _ => none
  | fuel + 1, source => do
    match trim source with
    | '>' :: rest => return (read.reverse, false, rest)
    | '/' :: '>' :: rest => return (read.reverse, true, rest)
    | more =>
      let (name, rest) ← name? more
      if (read.lookup name).isSome then none
      match trim rest with
      | '=' :: rest =>
        let (value, rest) ← value? entities rest
        attributes entities ((name, value) :: read) fuel rest
      | _ => none

/-- A tag behind its opening bracket. -/
def tag (entities : Entities) (text : List Char) : Option (Markup × List Char) :=
  match text with
  | '/' :: rest => do
    let (name, rest) ← name? rest
    match trim rest with
    | '>' :: rest => return (.closing name, rest)
    | _ => none
  | _ => do
    let (name, rest) ← name? text
    let (attributes, isEmpty, rest) ← attributes entities [] (rest.length + 1) rest
    return (.opening name attributes isEmpty, rest)

/-! ## What stands between tags -/

/-- The text before the first occurrence of `stop`, and the text behind it. -/
def upTo (stop : List Char) : List Char → Option (List Char × List Char)
  | [] => none
  | c :: rest =>
    if stop.isPrefixOf (c :: rest) then some ([], (c :: rest).drop stop.length)
    else (upTo stop rest).map fun (before, after) => (c :: before, after)

/-- A document type up to its closing bracket, inside of which brackets are balanced. -/
def balanced : Nat → List Char → Option (List Char × List Char)
  | _, [] => none
  | n, c :: rest =>
    if c = '>' ∧ n = 0 then some ([], rest)
    else
      let n := if c = '<' then n + 1 else if c = '>' then n - 1 else n
      (balanced n rest).map fun (inside, after) => (c :: inside, after)

/-- Adds the entity that a declaration behind its opening bracket makes, if it makes one. -/
def declare (entities : Entities) (declaration : List Char) : Option Entities :=
  if !"!ENTITY".toList.isPrefixOf declaration then some entities
  else do
    let text := trim (declaration.drop "!ENTITY".length)
    let text := match text with | '%' :: rest => trim rest | _ => text
    let (name, rest) ← name? text
    match trim rest with
    | quote :: rest =>
      if quote ≠ '"' ∧ quote ≠ '\'' then none
      match rest.dropWhile (· != quote) with
      | _ :: after =>
        if (trim after).head? ≠ some '>' then none
        let value ← unescape entities (rest.takeWhile (· != quote))
        return (name, value) :: entities
      | [] => none
    | [] => none

/-- Whether a declaration of the document names no other encoding than UTF-8. -/
def isReadable (instruction : List Char) : Bool :=
  match upTo "encoding".toList instruction with
  | none => true
  | some (_, rest) =>
    match (trim rest).dropWhile (· == '=') with
    | more =>
      match trim more with
      | quote :: value =>
        (value.takeWhile (· != quote)).map Char.toLower ∈ ["utf-8".toList, "utf8".toList]
      | [] => false

/-- The markup of a text.  Every step takes a character at least. -/
def ofText (entities : Entities) (fuel : Nat) (text : List Char) : Option (List Markup) :=
  match fuel, text with
  | _, [] => some []
  | 0, _ => none
  | fuel + 1, '<' :: '?' :: rest => do
    let (instruction, rest) ← upTo "?>".toList rest
    if "xml ".toList.isPrefixOf instruction && !isReadable instruction then none
    ofText entities fuel rest
  | fuel + 1, '<' :: '!' :: '-' :: '-' :: rest => do
    let (_, rest) ← upTo "-->".toList rest
    ofText entities fuel rest
  | fuel + 1, '<' :: '!' :: rest => do
    if "[CDATA[".toList.isPrefixOf rest then
      let (value, rest) ← upTo "]]>".toList (rest.drop 7)
      return .text value :: (← ofText entities fuel rest)
    else if "DOCTYPE".toList.isPrefixOf rest then
      let (inside, rest) ← balanced 0 (rest.drop 7)
      let entities ← (Text.splitOn '<' inside).foldlM declare entities
      ofText entities fuel rest
    else none
  | fuel + 1, '<' :: rest => do
    let (t, rest) ← tag entities rest
    return t :: (← ofText entities fuel rest)
  | fuel + 1, c :: rest => do
    let value ← unescape entities ((c :: rest).takeWhile (· != '<'))
    return .text value :: (← ofText entities fuel ((c :: rest).dropWhile (· != '<')))

/-- The markup of a document, or nothing if it is not made of markup. -/
def all (text : String) : Option (List Markup) :=
  let cs := text.toList
  let cs := match cs with | '\uFEFF' :: rest => rest | _ => cs
  ofText predefined cs.length cs

end Markup

end GraphCommit.Xml
