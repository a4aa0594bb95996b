import GraphCommit.Json.Value
import GraphCommit.Settings

/-!
# Settings from a JSON document

The document is an object of the five fields, each at most once, or a list of their values in
order.  Fields are read in the order of the document and the first fault is reported.  Fields that
are missing take their defaults; fields of other names are skipped.
-/

namespace GraphCommit.Settings

/-- Why a document does not spell out settings. -/
inductive DocumentError where
  | grammar (e : Json.Error)
  | duplicate (field : String)
  | type (found : Json.Opening) (expected : String)
  | value (found : Json.Opening) (expected : String)
  deriving DecidableEq, Repr

def DocumentError.message : DocumentError → String
  | grammar e => e.message
  | duplicate field => "duplicate field `" ++ field ++ "`"
  | type found expected => "invalid type: " ++ found.describe ++ ", expected " ++ expected
  | value found expected => "invalid value: " ++ found.describe ++ ", expected " ++ expected

/-- Reading of a value from before it, with the text behind it. -/
abbrev Read (α : Type) := List Char → Except DocumentError (α × List Char)

/-- The opening of the next value. -/
def nextOpening (text : List Char) : Except DocumentError (Json.Opening × List Char) :=
  (Json.readOpening (Json.skipBlanks text)).mapError .grammar

def readText (expected : String) : Read String := fun text => do
  match ← nextOpening text with
  | (.text content, rest) => return (String.ofList content, rest)
  | (found, _) => throw (.type found expected)

def readFlag : Read Bool := fun text => do
  match ← nextOpening text with
  | (.boolean b, rest) => return (b, rest)
  | (found, _) => throw (.type found "a boolean")

def readWordNumber : Read Nat := fun text => do
  match ← nextOpening text with
  | (.number (.natural n), rest) => return (n, rest)
  | (.number (.negative n), _) => throw (.value (.number (.negative n)) "u64")
  | (found, _) => throw (.type found "u64")

/-- A value that may be null. -/
def readOptional {α : Type} (read : Read α) : Read (Option α) := fun text => do
  match Json.skipBlanks text with
  | 'n' :: rest =>
    let rest ← (Json.readWord ['u', 'l', 'l'] rest).mapError .grammar
    return (none, rest)
  | rest =>
    let (a, rest) ← read rest
    return (some a, rest)

/-- The fields of the document. -/
inductive Field where
  | dataDir
  | repository
  | workingRepository
  | derive
  | lockTimeout
  deriving DecidableEq, Repr

def Field.name : Field → String
  | dataDir => "data_dir"
  | repository => "repository_name"
  | workingRepository => "working_repository_name"
  | derive => "derive_transformations"
  | lockTimeout => "lock_timeout_ms"

/-- The fields in the order in which a list gives their values. -/
def Field.all : List Field := [dataDir, repository, workingRepository, derive, lockTimeout]

def Field.ofName? (name : String) : Option Field := Field.all.find? (fun f => f.name == name)

/-- Reads the value of a field into the settings. -/
def Field.read (field : Field) (s : Settings) : Read Settings := fun text =>
  match field with
  | dataDir =>
    (readOptional (readText "path string") text).map fun (v, rest) =>
      ({ s with dataDir := v }, rest)
  | repository =>
    (readText "a string" text).map fun (v, rest) => ({ s with repository := v }, rest)
  | workingRepository =>
    (readText "a string" text).map fun (v, rest) => ({ s with workingRepository := v }, rest)
  | derive => (readFlag text).map fun (v, rest) => ({ s with derive := v }, rest)
  | lockTimeout =>
    (readOptional readWordNumber text).map fun (v, rest) => ({ s with lockTimeout := v }, rest)

/-- The text behind a key, which begins right here, and its name. -/
def readKey (text : List Char) : Except DocumentError (String × List Char) :=
  match text with
  | [] => .error (.grammar .endInValue)
  | '"' :: rest =>
    match Json.readString rest with
    | .error e => .error (.grammar e)
    | .ok (name, rest) => .ok (String.ofList name, rest)
  | _ => .error (.grammar .keyNotAString)

/-- The text behind the colon of an entry. -/
def readColon (text : List Char) : Except DocumentError (List Char) :=
  match Json.skipBlanks text with
  | [] => .error (.grammar .endInObject)
  | ':' :: rest => .ok rest
  | _ => .error (.grammar .expectedColon)

/-- One entry from its key on.  A field that was seen before is a fault before its value is looked
at. -/
def readEntry (seen : List Field) (s : Settings) (text : List Char) :
    Except DocumentError (List Field × Settings × List Char) := do
  let (name, rest) ← readKey text
  match Field.ofName? name with
  | some field =>
    if seen.contains field then throw (.duplicate field.name)
    let rest ← readColon rest
    let (s, rest) ← field.read s rest
    return (field :: seen, s, rest)
  | none =>
    let rest ← readColon rest
    let rest ← (Json.skipValue rest).mapError .grammar
    return (seen, s, rest)

/-- The entries of an object behind the first one. -/
def readEntries : Nat → List Field → Settings → Read Settings
  | 0, _, _, _ => .error (.grammar .endInObject)
  | steps + 1, seen, s, text =>
    match Json.skipBlanks text with
    | [] => .error (.grammar .endInObject)
    | '\x7d' :: rest => .ok (s, rest)
    | ',' :: rest =>
      match Json.skipBlanks rest with
      | '\x7d' :: _ => .error (.grammar .trailingComma)
      | rest => do
        let (seen, s, rest) ← readEntry seen s rest
        readEntries steps seen s rest
    | _ => .error (.grammar .expectedCommaOrBrace)

/-- The settings of an object, from behind its brace. -/
def readObject : Read Settings := fun text =>
  match Json.skipBlanks text with
  | [] => .error (.grammar .endInObject)
  | '\x7d' :: rest => .ok ({}, rest)
  | rest => do
    let (seen, s, rest) ← readEntry [] {} rest
    readEntries rest.length seen s rest

/-- The end of a list that gave a value to every field. -/
def readListEnd (text : List Char) : Except DocumentError (List Char) :=
  match Json.skipBlanks text with
  | [] => .error (.grammar .endInList)
  | ']' :: rest => .ok rest
  | ',' :: rest =>
    match Json.skipBlanks rest with
    | ']' :: _ => .error (.grammar .trailingComma)
    | _ => .error (.grammar .trailingCharacters)
  | _ => .error (.grammar .trailingCharacters)

/-- The values of a list for the given fields. -/
def readElements : List Field → Bool → Settings → Read Settings
  | [], _, s, text => (readListEnd text).map (s, ·)
  | field :: fields, isFirst, s, text =>
    match Json.skipBlanks text with
    | [] => .error (.grammar .endInList)
    | ']' :: rest => .ok (s, rest)
    | c :: rest =>
      if isFirst then do
        let (s, rest) ← field.read s (c :: rest)
        readElements fields false s rest
      else if c = ',' then
        match Json.skipBlanks rest with
        | [] => .error (.grammar .endInValue)
        | ']' :: _ => .error (.grammar .trailingComma)
        | rest => do
          let (s, rest) ← field.read s rest
          readElements fields false s rest
      else .error (.grammar .expectedCommaOrBracket)

/-- The settings of a whole document, before they are checked. -/
def readDocument (text : List Char) : Except DocumentError Settings := do
  let (s, rest) ←
    match ← nextOpening text with
    | (.object, rest) => readObject rest
    | (.list, rest) => readElements Field.all true {} rest
    | (found, _) => throw (.type found "struct ConnectorConfig")
  match Json.skipBlanks rest with
  | [] => return s
  | _ => throw (.grammar .trailingCharacters)

/-- The settings that a JSON document spells out. -/
def ofJson (files : Files) (text : String) : Except Error Settings :=
  match readDocument text.toList with
  | .error e => .error (.malformed e.message)
  | .ok s => validate files s

end GraphCommit.Settings
