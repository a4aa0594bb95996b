import GraphCommit.Json.Error
import GraphCommit.Text.Hex

/-!
# Strings of a JSON text

A string is read from behind its opening quote; the result is its content and the text behind its
closing quote.  Where the content is wanted, a pair of surrogate escapes is one character and a
surrogate without its partner is a fault.  Where the string is only skipped, escapes are checked
one by one and surrogates go unchecked.
-/

namespace GraphCommit.Json

/-- The blanks between the tokens of a JSON text. -/
def isBlank (c : Char) : Bool := c == ' ' || c == '\n' || c == '\t' || c == '\r'

def skipBlanks (text : List Char) : List Char := text.dropWhile isBlank

/-- How many bytes the text takes in UTF-8. -/
def byteCount (text : List Char) : Nat := text.foldl (fun n c => n + c.utf8Size) 0

/-- The value of the four hexadecimal digits that follow `\u`, and the text behind them.  Four
bytes that are not such digits are a wrong escape; fewer than four are the end of the text. -/
def fourDigits (text : List Char) : Except Error (Nat × List Char) :=
  match text with
  | a :: b :: c :: d :: rest =>
    match Text.Hex.value? a, Text.Hex.value? b, Text.Hex.value? c, Text.Hex.value? d with
    | some a, some b, some c, some d => .ok (4096 * a + 256 * b + 16 * c + d, rest)
    | _, _, _, _ => .error .invalidEscape
  | few => if byteCount few < 4 then .error .endInString else .error .invalidEscape

/-- The character that an escape of one letter stands for. -/
def shortEscape? : Char → Option Char
  | '"' => some '"'
  | '\\' => some '\\'
  | '/' => some '/'
  | 'b' => some '\x08'
  | 'f' => some '\x0c'
  | 'n' => some '\n'
  | 'r' => some '\r'
  | 't' => some '\t'
  | _ => none

def isHighSurrogate (n : Nat) : Bool := 0xD800 ≤ n && n ≤ 0xDBFF

def isLowSurrogate (n : Nat) : Bool := 0xDC00 ≤ n && n ≤ 0xDFFF

/-- The second half of a pair of surrogate escapes, and the text behind it. -/
def secondSurrogate (text : List Char) : Except Error (Nat × List Char) :=
  match text with
  | [] => .error .endInString
  | ['\\'] => .error .endInString
  | '\\' :: 'u' :: rest =>
    match fourDigits rest with
    | .error e => .error e
    | .ok (n, rest) => if isLowSurrogate n then .ok (n, rest) else .error .loneSurrogate
  | _ => .error .endOfSurrogatePair

/-- The character of an escape, from behind the backslash, and the text behind it. -/
def readEscape (text : List Char) : Except Error (Char × List Char) :=
  match text with
  | [] => .error .endInString
  | 'u' :: rest =>
    match fourDigits rest with
    | .error e => .error e
    | .ok (n, rest) =>
      if isLowSurrogate n then .error .loneSurrogate
      else if isHighSurrogate n then
        match secondSurrogate rest with
        | .error e => .error e
        | .ok (m, rest) =>
          .ok (Char.ofNat (0x10000 + (n - 0xD800) * 0x400 + (m - 0xDC00)), rest)
      else .ok (Char.ofNat n, rest)
  | c :: rest =>
    match shortEscape? c with
    | some d => .ok (d, rest)
    | none => .error .invalidEscape

/-- The text behind an escape that is only skipped. -/
def skipEscape (text : List Char) : Except Error (List Char) :=
  match text with
  | [] => .error .endInString
  | 'u' :: rest => (fourDigits rest).map Prod.snd
  | c :: rest => if (shortEscape? c).isSome then .ok rest else .error .invalidEscape

/-- The content of a string, read with an escape reader in steps of which there are as many as the
text has characters.  `content` is what has been read, reversed. -/
def readContent : Nat → List Char → List Char → Except Error (List Char × List Char)
  | _, _, [] => .error .endInString
  | 0, _, _ => .error .endInString
  | steps + 1, content, c :: rest =>
    if c = '"' then .ok (content.reverse, rest)
    else if c = '\\' then
      match readEscape rest with
      | .error e => .error e
      | .ok (d, rest) => readContent steps (d :: content) rest
    else if c.toNat < 32 then .error .controlCharacter
    else readContent steps (c :: content) rest

/-- The content of a string, from behind its opening quote, and the text behind it. -/
def readString (text : List Char) : Except Error (List Char × List Char) :=
  readContent text.length [] text

def skipContent : Nat → List Char → Except Error (List Char)
  | _, [] => .error .endInString
  | 0, _ => .error .endInString
  | steps + 1, c :: rest =>
    if c = '"' then .ok rest
    else if c = '\\' then
      match skipEscape rest with
      | .error e => .error e
      | .ok rest => skipContent steps rest
    else if c.toNat < 32 then .error .controlCharacter
    else skipContent steps rest

/-- The text behind a string that is only skipped, from behind its opening quote. -/
def skipString (text : List Char) : Except Error (List Char) :=
  skipContent text.length text

end GraphCommit.Json
