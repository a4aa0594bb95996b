import GraphCommit.Text.Hex
import GraphCommit.Turtle.Characters

/-!
# Tokens

Turtle documents and queries are made of the same tokens.  Blanks and comments, from a number sign
to the end of the line, stand between them.  A token is the longest that the text begins with;
escapes in IRIs, strings and names are undone here.
-/

namespace GraphCommit.Turtle

inductive Token where
  /-- The text between angle brackets. -/
  | reference (text : String)
  /-- A name of a namespace, a colon, and a name in it, which may be empty. -/
  | short (space name : String)
  /-- The label of a blank node. -/
  | label (text : String)
  | string (value : String)
  /-- What follows an at sign: a directive or a language tag. -/
  | at_ (text : String)
  | integer (text : String)
  | decimal (text : String)
  | double (text : String)
  /-- A variable of a query. -/
  | unknown (name : String)
  | word (text : String)
  | mark (c : Char)
  /-- The two carets before a datatype. -/
  | carets
  deriving DecidableEq, Repr

namespace Token

/-! ## Escapes -/

/-- The character with the code point that the given number of digits spells out. -/
def codePoint (width : Nat) (text : List Char) : Option (Char × List Char) := do
  let digits := text.take width
  if digits.length ≠ width then none
  let values ← digits.mapM Text.Hex.value?
  let n := values.foldl (fun n d => 16 * n + d) 0
  if n.isValidChar then some (Char.ofNat n, text.drop width) else none

/-- The character that an escape in any text stands for, behind its backslash. -/
def codeEscape : List Char → Option (Char × List Char)
  | 'u' :: rest => codePoint 4 rest
  | 'U' :: rest => codePoint 8 rest
  | _ => none

/-- The character that an escape in a string stands for, behind its backslash. -/
def stringEscape : List Char → Option (Char × List Char)
  | 't' :: rest => some ('\t', rest)
  | 'b' :: rest => some ('\x08', rest)
  | 'n' :: rest => some ('\n', rest)
  | 'r' :: rest => some ('\r', rest)
  | 'f' :: rest => some ('\x0c', rest)
  | '"' :: rest => some ('"', rest)
  | '\'' :: rest => some ('\'', rest)
  | '\\' :: rest => some ('\\', rest)
  | text => codeEscape text

/-! ## IRIs and strings

The text that has been read is kept in reverse.  Each of these ends with its text: every step takes
at least one character. -/

/-- Whether a character may stand for itself in a reference. -/
def isReference (c : Char) : Bool :=
  ' '.toNat < c.toNat && !(['<', '>', '"', '\x7b', '\x7d', '|', '^', '\x60', '\\'].contains c)

def readReference : Nat → List Char → List Char → Option (String × List Char)
  | 0, _, _ => none
  | _ + 1, read, '>' :: rest => some (String.ofList read.reverse, rest)
  | fuel + 1, read, '\\' :: rest => do
    let (c, rest) ← codeEscape rest
    readReference fuel (c :: read) rest
  | fuel + 1, read, c :: rest =>
    if isReference c then readReference fuel (c :: read) rest else none
  | _ + 1, _, [] => none

/-- A string on one line, up to its closing quote. -/
def shortString (quote : Char) : Nat → List Char → List Char → Option (String × List Char)
  | 0, _, _ => none
  | _ + 1, _, [] => none
  | fuel + 1, read, c :: rest =>
    if c = quote then some (String.ofList read.reverse, rest)
    else if c = '\\' then do
      let (c, rest) ← stringEscape rest
      shortString quote fuel (c :: read) rest
    else if c = '\n' ∨ c = '\r' then none
    else shortString quote fuel (c :: read) rest

/-- A string over any number of lines, up to three closing quotes. -/
def longString (quote : Char) : Nat → List Char → List Char → Option (String × List Char)
  | 0, _, _ => none
  | _ + 1, _, [] => none
  | fuel + 1, read, c :: rest =>
    if c = quote ∧ rest.take 2 = [quote, quote] then
      some (String.ofList read.reverse, rest.drop 2)
    else if c = '\\' then do
      let (c, rest) ← stringEscape rest
      longString quote fuel (c :: read) rest
    else longString quote fuel (c :: read) rest

/-- The string behind its first quote. -/
def quoted (quote : Char) (text : List Char) : Option (String × List Char) :=
  if text.take 2 = [quote, quote] then longString quote text.length [] (text.drop 2)
  else shortString quote (text.length + 1) [] text

/-! ## Names -/

/-- Takes dots from the end of a name, which is kept in reverse, back into the text. -/
def giveBackDots : List Char → List Char → List Char × List Char
  | '.' :: read, rest => giveBackDots read ('.' :: rest)
  | read, rest => (read.reverse, rest)

/-- The longest name that continues with the given characters and dots but ends in no dot. -/
def dotted (inner : Char → Bool) (text : List Char) : List Char × List Char :=
  let inside (c : Char) : Bool := inner c || c == '.'
  giveBackDots (text.takeWhile inside).reverse (text.dropWhile inside)

/-- The characters that may be written behind a backslash in a local name. -/
def isNameEscape (c : Char) : Bool := "_~.-!$&'()*+,;=/?#@%".toList.contains c

/-- The rest of a local name.  Dots are held back until something follows them. -/
def localRest : Nat → List Char → Nat → List Char → Option (String × List Char)
  | 0, _, _, _ => none
  | fuel + 1, read, dots, text =>
    let take (c : List Char) (rest : List Char) :=
      localRest fuel (c.reverse ++ List.replicate dots '.' ++ read) 0 rest
    match text with
    | '%' :: a :: b :: rest =>
      if (Text.Hex.value? a).isSome && (Text.Hex.value? b).isSome then take ['%', a, b] rest
      else none
    | '%' :: _ => none
    | '\\' :: c :: rest => if isNameEscape c then take [c] rest else none
    | '\\' :: [] => none
    | '.' :: rest => localRest fuel read (dots + 1) rest
    | c :: rest =>
      if isNameInner c || c == ':' then take [c] rest
      else some (String.ofList read.reverse, List.replicate dots '.' ++ text)
    | [] => some (String.ofList read.reverse, List.replicate dots '.')

/-- Whether a local name may begin with a character. -/
def beginsLocal (c : Char) : Bool :=
  isNameStart c || c == ':' || c.isDigit || c == '%' || c == '\\'

/-- A local name, which may be empty. -/
def localName : List Char → Option (String × List Char)
  | [] => some ("", [])
  | c :: rest =>
    if beginsLocal c then localRest (rest.length + 2) [] 0 (c :: rest) else some ("", c :: rest)

/-- A word, or a name of a namespace with a local name. -/
def wordOrShort (text : List Char) : Option (Token × List Char) :=
  match dotted isNameInner text with
  | (space, ':' :: rest) =>
    (localName rest).map fun (name, rest) => (.short (String.ofList space) name, rest)
  | _ =>
    let word := text.takeWhile isNameInner
    some (.word (String.ofList word), text.dropWhile isNameInner)

/-- A label behind its underscore and colon. -/
def blankLabel : List Char → Option (Token × List Char)
  | c :: rest =>
    if isNameStart c || c.isDigit then
      let (more, rest) := dotted isNameInner rest
      some (.label (String.ofList (c :: more)), rest)
    else none
  | [] => none

/-- A directive or a language tag: letters, then groups of letters and digits behind hyphens. -/
def atWord (text : List Char) : Option (Token × List Char) :=
  let first := text.takeWhile Char.isAlpha
  if first.isEmpty then none
  else
    let inside (c : Char) : Bool := c.isAlphanum || c == '-'
    let rest := text.dropWhile Char.isAlpha
    match rest with
    | '-' :: _ =>
      some (.at_ (String.ofList (first ++ rest.takeWhile inside)), rest.dropWhile inside)
    | _ => some (.at_ (String.ofList first), rest)

/-! ## Numbers -/

/-- The exponent that a text begins with. -/
def exponent : List Char → Option (List Char × List Char)
  | e :: rest =>
    if e = 'e' ∨ e = 'E' then
      let (sign, rest) :=
        match rest with
        | '+' :: more => (['+'], more)
        | '-' :: more => (['-'], more)
        | _ => ([], rest)
      let digits := rest.takeWhile Char.isDigit
      if digits.isEmpty then none else some (e :: sign ++ digits, rest.dropWhile Char.isDigit)
    else none
  | [] => none

/-- A number behind its sign.  A dot belongs to it if a digit or an exponent follows. -/
def unsignedNumber (sign : List Char) (text : List Char) : Option (Token × List Char) :=
  let whole := text.takeWhile Char.isDigit
  let rest := text.dropWhile Char.isDigit
  let plain : Option (Token × List Char) :=
    match exponent rest with
    | some (e, after) =>
      if whole.isEmpty then none else some (.double (String.ofList (sign ++ whole ++ e)), after)
    | none => if whole.isEmpty then none else some (.integer (String.ofList (sign ++ whole)), rest)
  match rest with
  | '.' :: more =>
    let fraction := more.takeWhile Char.isDigit
    let behind := more.dropWhile Char.isDigit
    let body := sign ++ whole ++ '.' :: fraction
    match exponent behind with
    | some (e, after) =>
      if whole.isEmpty && fraction.isEmpty then none
      else some (.double (String.ofList (body ++ e)), after)
    | none => if fraction.isEmpty then plain else some (.decimal (String.ofList body), behind)
  | _ => plain

/-! ## Texts -/

/-- The marks that stand for themselves. -/
def marks : List Char := ['.', ';', ',', '[', ']', '(', ')', '\x7b', '\x7d', '*']

/-- The token that a text without blanks before it begins with. -/
def first : List Char → Option (Token × List Char)
  | '<' :: rest =>
    (readReference (rest.length + 1) [] rest).map fun (text, rest) => (.reference text, rest)
  | '_' :: ':' :: rest => blankLabel rest
  | '"' :: rest => (quoted '"' rest).map fun (value, rest) => (.string value, rest)
  | '\'' :: rest => (quoted '\'' rest).map fun (value, rest) => (.string value, rest)
  | '@' :: rest => atWord rest
  | '^' :: '^' :: rest => some (.carets, rest)
  | ':' :: rest => (localName rest).map fun (name, rest) => (.short "" name, rest)
  | '+' :: rest => unsignedNumber ['+'] rest
  | '-' :: rest => unsignedNumber ['-'] rest
  | '.' :: d :: rest =>
    if d.isDigit then unsignedNumber [] ('.' :: d :: rest) else some (.mark '.', d :: rest)
  | c :: rest =>
    if c.isDigit then unsignedNumber [] (c :: rest)
    else if c = '?' ∨ c = '$' then
      let name := rest.takeWhile isVariable
      if name.isEmpty then none
      else some (.unknown (String.ofList name), rest.dropWhile isVariable)
    else if marks.contains c then some (.mark c, rest)
    else if isLetter c then wordOrShort (c :: rest)
    else none
  | [] => none

/-- The tokens of a text.  Every step takes a character at least. -/
def ofText (fuel : Nat) (text : List Char) : Option (List Token) :=
  match fuel, text with
  | _, [] => some []
  | 0, _ => none
  | fuel + 1, c :: rest =>
    if isBlank c then ofText fuel rest
    else if c = '#' then ofText fuel (rest.dropWhile fun d => d != '\n' && d != '\r')
    else do
      let (token, rest) ← first (c :: rest)
      let tokens ← ofText fuel rest
      return token :: tokens

/-- The tokens of a text, or nothing if it is not made of tokens. -/
def all (text : String) : Option (List Token) :=
  let cs := text.toList
  ofText cs.length cs

end Token

end GraphCommit.Turtle
