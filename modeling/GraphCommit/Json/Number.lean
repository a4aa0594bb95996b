import GraphCommit.Decimal.Shortest
import GraphCommit.Json.Error

/-!
# Numbers of a JSON text

A number without a fraction and an exponent is a 64-bit word, natural or negative, as long as it
fits.  Every other number, and the negative zero, is a floating one.  A floating number is made
from the leading digits that fit a 64-bit word and a power of ten; digits beyond that count only
for the size.
-/

namespace GraphCommit.Json

/-- A number as it was written. -/
inductive Number where
  | natural (n : Nat)
  /-- The integer `-n`, with a positive `n`. -/
  | negative (n : Nat)
  | floating (negative : Bool) (value : Decimal.Binary)
  deriving DecidableEq, Repr

/-- The first number that a 64-bit word does not hold. -/
def wordBound : Nat := Nat.pow 2 64

/-- The first number that a 32-bit exponent does not hold. -/
def exponentBound : Nat := Nat.pow 2 31

/-- The smallest and the greatest scale of a decimal. -/
def scaleLimit : Int := Nat.pow 2 31

def digitValue (c : Char) : Nat := c.toNat - 48

/-- A floating number of a sign, digits and a power of ten. -/
def floating (negative : Bool) (word : Nat) (scale : Int) : Except Error Number :=
  match Decimal.Binary.ofScaled word scale with
  | some value => .ok (.floating negative value)
  | none => .error .numberOutOfRange

/-- Reads the digits of an exponent onto `e`; nothing when they pass the 32-bit bound. -/
def exponentDigits : Nat → List Char → Option (Nat × List Char)
  | e, [] => some (e, [])
  | e, c :: rest =>
    if c.isDigit then
      if exponentBound ≤ 10 * e + digitValue c then none
      else exponentDigits (10 * e + digitValue c) rest
    else some (e, c :: rest)

/-- The number of digits and a power of ten, from behind the `e` of an exponent. -/
def readExponent (negative : Bool) (word : Nat) (scale : Int) (text : List Char) :
    Except Error (Number × List Char) :=
  let (down, text) :=
    match text with
    | '+' :: rest => (false, rest)
    | '-' :: rest => (true, rest)
    | _ => (false, text)
  match text with
  | [] => .error .endInValue
  | c :: rest =>
    if !c.isDigit then .error .invalidNumber
    else
      match exponentDigits (digitValue c) rest with
      | some (e, rest) =>
        let total : Int := if down then scale - e else scale + e
        let bounded := max (-scaleLimit) (min (scaleLimit - 1) total)
        (floating negative word bounded).map (·, rest)
      | none =>
        if word ≠ 0 ∧ !down then .error .numberOutOfRange
        else .ok (.floating negative Decimal.Binary.zero, rest.dropWhile Char.isDigit)

/-- Behind all digits: an exponent, or the end of the number. -/
def readScaled (negative : Bool) (word : Nat) (scale : Int) (text : List Char) :
    Except Error (Number × List Char) :=
  match text with
  | 'e' :: rest => readExponent negative word scale rest
  | 'E' :: rest => readExponent negative word scale rest
  | _ => (floating negative word scale).map (·, text)

/-- Takes digits of a fraction onto the word as long as it fits; the rest is dropped. -/
def fractionDigits : Nat → Int → List Char → Nat × Int × List Char
  | word, scale, [] => (word, scale, [])
  | word, scale, c :: rest =>
    if c.isDigit then
      if wordBound ≤ 10 * word + digitValue c then (word, scale, rest.dropWhile Char.isDigit)
      else fractionDigits (10 * word + digitValue c) (scale - 1) rest
    else (word, scale, c :: rest)

/-- The number from behind its point. -/
def readFraction (negative : Bool) (word : Nat) (scale : Int) (text : List Char) :
    Except Error (Number × List Char) :=
  match text with
  | [] => .error .endInValue
  | c :: _ =>
    if !c.isDigit then .error .invalidNumber
    else
      let (word, scale, rest) := fractionDigits word scale text
      readScaled negative word scale rest

/-- Counts digits that no longer fit the word, then reads on. -/
def readLong (negative : Bool) (word : Nat) (scale : Int) :
    List Char → Except Error (Number × List Char)
  | [] => (floating negative word scale).map (·, [])
  | c :: rest =>
    if c.isDigit then readLong negative word (scale + 1) rest
    else if c = '.' then readFraction negative word scale rest
    else readScaled negative word scale (c :: rest)

/-- A number without a fraction and an exponent. -/
def whole (negative : Bool) (word : Nat) : Number :=
  if !negative then .natural word
  else if 0 < word ∧ word ≤ Nat.pow 2 63 then .negative word
  else .floating true (Decimal.Binary.ofWord word)

/-- The digits before the point, from behind the first of them. -/
def readWhole (negative : Bool) (word : Nat) : List Char → Except Error (Number × List Char)
  | [] => .ok (whole negative word, [])
  | c :: rest =>
    if c.isDigit then
      if wordBound ≤ 10 * word + digitValue c then readLong negative word 0 (c :: rest)
      else readWhole negative (10 * word + digitValue c) rest
    else if c = '.' then readFraction negative word 0 rest
    else if c = 'e' ∨ c = 'E' then readExponent negative word 0 rest
    else .ok (whole negative word, c :: rest)

/-- A number, from behind its sign.  Only zero may begin with a zero. -/
def readNumber (negative : Bool) (text : List Char) : Except Error (Number × List Char) :=
  match text with
  | [] => .error .endInValue
  | '0' :: rest =>
    match rest with
    | c :: _ =>
      if c.isDigit then .error .invalidNumber
      else if c = '.' then readFraction negative 0 0 (rest.drop 1)
      else if c = 'e' ∨ c = 'E' then readExponent negative 0 0 (rest.drop 1)
      else .ok (whole negative 0, rest)
    | [] => .ok (whole negative 0, [])
  | c :: rest =>
    if c.isDigit then readWhole negative (digitValue c) rest else .error .invalidNumber

/-! ## Skipping -/

/-- The text behind an exponent that is only checked, from behind its `e`. -/
def skipExponent (text : List Char) : Except Error (List Char) :=
  let text :=
    match text with
    | '+' :: rest => rest
    | '-' :: rest => rest
    | _ => text
  match text with
  | [] => .error .invalidNumber
  | c :: rest => if c.isDigit then .ok (rest.dropWhile Char.isDigit) else .error .invalidNumber

/-- The text behind a fraction that is only checked, from behind its point. -/
def skipFraction (text : List Char) : Except Error (List Char) :=
  match text with
  | [] => .error .invalidNumber
  | c :: _ =>
    if !c.isDigit then .error .invalidNumber
    else
      match text.dropWhile Char.isDigit with
      | 'e' :: rest => skipExponent rest
      | 'E' :: rest => skipExponent rest
      | rest => .ok rest

/-- The text behind a number that is only checked, from behind its sign. -/
def skipNumber (text : List Char) : Except Error (List Char) :=
  let tail (rest : List Char) : Except Error (List Char) :=
    match rest with
    | '.' :: rest => skipFraction rest
    | 'e' :: rest => skipExponent rest
    | 'E' :: rest => skipExponent rest
    | _ => .ok rest
  match text with
  | [] => .error .invalidNumber
  | '0' :: rest =>
    match rest with
    | c :: _ => if c.isDigit then .error .invalidNumber else tail rest
    | [] => .ok []
  | c :: rest =>
    if c.isDigit then tail (rest.dropWhile Char.isDigit) else .error .invalidNumber

/-! ## Writing -/

/-- The digits of a positive decimal: positional from `1e-5` up to `1e16`, with `.0` for a whole
number, otherwise with an exponent that shows its sign. -/
def floatingText (s : Decimal.Scaled) : String :=
  let digits := (toString s.digits).toList
  let count := digits.length
  let point : Int := count + s.exponent
  if s.digits = 0 then "0.0"
  else if 0 ≤ s.exponent ∧ point ≤ 16 then
    String.ofList (digits ++ List.replicate s.exponent.toNat '0') ++ ".0"
  else if 0 < point ∧ point ≤ 16 then
    String.ofList (digits.take point.toNat ++ '.' :: digits.drop point.toNat)
  else if -5 < point ∧ point ≤ 0 then
    "0." ++ String.ofList (List.replicate (-point).toNat '0' ++ digits)
  else
    let e := point - 1
    let mantissa :=
      if count = 1 then digits else digits.take 1 ++ '.' :: digits.drop 1
    let sign := if e < 0 then "-" else "+"
    String.ofList mantissa ++ "e" ++ sign ++ toString e.natAbs

def Number.text : Number → String
  | .natural n => toString n
  | .negative n => "-" ++ toString n
  | .floating minus value =>
    (if minus then "-" else "") ++ floatingText (Decimal.shortest value)

end GraphCommit.Json
