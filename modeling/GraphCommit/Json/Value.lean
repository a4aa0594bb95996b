import GraphCommit.Json.Number
import GraphCommit.Json.Text
import GraphCommit.Text.Quoted

/-!
# Values of a JSON text

A reader that expects a value of some type looks at the value's beginning only.  Its `Opening`
tells a scalar with its content and a list or an object by its bracket.  A value of no interest is
skipped; it is checked for its syntax at any depth of nesting.
-/

namespace GraphCommit.Json

/-- How a value begins: a whole scalar, or the bracket of a list or an object. -/
inductive Opening where
  | null
  | boolean (b : Bool)
  | number (n : Number)
  | text (content : List Char)
  | list
  | object
  deriving DecidableEq, Repr

/-- How a value is named in a message. -/
def Opening.describe : Opening → String
  | null => "null"
  | boolean b => "boolean `" ++ (if b then "true" else "false") ++ "`"
  | number (.floating s v) => "floating point `" ++ (Number.floating s v).text ++ "`"
  | number n => "integer `" ++ n.text ++ "`"
  | text content => "string " ++ Text.Quoted.encode (String.ofList content)
  | list => "sequence"
  | object => "map"

/-- The text behind the remaining letters of a word. -/
def readWord (letters : List Char) (text : List Char) : Except Error (List Char) :=
  match letters, text with
  | [], text => .ok text
  | _ :: _, [] => .error .endInValue
  | l :: letters, c :: text => if l = c then readWord letters text else .error .expectedWord

/-- The opening of a value that begins right here, and the text behind it. -/
def readOpening (text : List Char) : Except Error (Opening × List Char) :=
  match text with
  | [] => .error .endInValue
  | 'n' :: rest => (readWord ['u', 'l', 'l'] rest).map (.null, ·)
  | 't' :: rest => (readWord ['r', 'u', 'e'] rest).map (.boolean true, ·)
  | 'f' :: rest => (readWord ['a', 'l', 's', 'e'] rest).map (.boolean false, ·)
  | '-' :: rest => (readNumber true rest).map fun (n, rest) => (.number n, rest)
  | '"' :: rest => (readString rest).map fun (s, rest) => (.text s, rest)
  | '[' :: rest => .ok (.list, rest)
  | '\x7b' :: rest => .ok (.object, rest)
  | c :: rest =>
    if c.isDigit then (readNumber false (c :: rest)).map fun (n, rest) => (.number n, rest)
    else .error .expectedValue

/-- A bracket that is still open while a value is skipped. -/
inductive Bracket where
  | list
  | object
  deriving DecidableEq, Repr

def Bracket.endInside : Bracket → Error
  | list => .endInList
  | object => .endInObject

def Bracket.expectedSeparator : Bracket → Error
  | list => .expectedCommaOrBracket
  | object => .expectedCommaOrBrace

def Bracket.closing : Bracket → Char
  | list => ']'
  | object => '\x7d'

/-- The text behind the key of an entry and its colon, from before the key. -/
def skipKey (text : List Char) : Except Error (List Char) :=
  match skipBlanks text with
  | [] => .error .endInObject
  | '"' :: rest =>
    match skipString rest with
    | .error e => .error e
    | .ok rest =>
      match skipBlanks rest with
      | [] => .error .endInObject
      | ':' :: rest => .ok rest
      | _ => .error .expectedColon
  | _ => .error .keyNotAString

/-- What to skip next: a value, an entry of the innermost bracket, or what follows an entry. -/
inductive Skipping where
  | value
  | entry
  | behindEntry
  deriving DecidableEq, Repr

/-- The text behind a value that is only checked.  The open brackets are listed from the innermost
one; every two steps use up a character. -/
def skipSteps : Nat → Skipping → List Bracket → List Char → Except Error (List Char)
  | 0, _, _, _ => .error .endInValue
  | steps + 1, .value, open_, text =>
    match skipBlanks text with
    | [] => .error .endInValue
    | '[' :: rest =>
      match skipBlanks rest with
      | [] => .error .endInList
      | ']' :: rest => skipSteps steps .behindEntry open_ rest
      | rest => skipSteps steps .entry (.list :: open_) rest
    | '\x7b' :: rest =>
      match skipBlanks rest with
      | [] => .error .endInObject
      | '\x7d' :: rest => skipSteps steps .behindEntry open_ rest
      | rest => skipSteps steps .entry (.object :: open_) rest
    | 'n' :: rest =>
      match readWord ['u', 'l', 'l'] rest with
      | .error e => .error e
      | .ok rest => skipSteps steps .behindEntry open_ rest
    | 't' :: rest =>
      match readWord ['r', 'u', 'e'] rest with
      | .error e => .error e
      | .ok rest => skipSteps steps .behindEntry open_ rest
    | 'f' :: rest =>
      match readWord ['a', 'l', 's', 'e'] rest with
      | .error e => .error e
      | .ok rest => skipSteps steps .behindEntry open_ rest
    | '"' :: rest =>
      match skipString rest with
      | .error e => .error e
      | .ok rest => skipSteps steps .behindEntry open_ rest
    | '-' :: rest =>
      match skipNumber rest with
      | .error e => .error e
      | .ok rest => skipSteps steps .behindEntry open_ rest
    | c :: rest =>
      if c.isDigit then
        match skipNumber (c :: rest) with
        | .error e => .error e
        | .ok rest => skipSteps steps .behindEntry open_ rest
      else .error .expectedValue
  | steps + 1, .entry, open_, text =>
    match open_ with
    | .object :: _ =>
      match skipKey text with
      | .error e => .error e
      | .ok rest => skipSteps steps .value open_ rest
    | _ => skipSteps steps .value open_ text
  | steps + 1, .behindEntry, open_, text =>
    match open_ with
    | [] => .ok text
    | bracket :: outer =>
      match skipBlanks text with
      | [] => .error bracket.endInside
      | ',' :: rest => skipSteps steps .entry open_ rest
      | c :: rest =>
        if c = bracket.closing then skipSteps steps .behindEntry outer rest
        else .error bracket.expectedSeparator

/-- The text behind a value that is only checked. -/
def skipValue (text : List Char) : Except Error (List Char) :=
  skipSteps (3 * text.length + 3) .value [] text

end GraphCommit.Json
