import GraphCommit.Decimal.Shortest
import GraphCommit.Rdf.Term

/-!
# Values of literals

A store keeps the value of a literal rather than its spelling where the datatype is one of truth
values or numbers: two spellings of one value make one literal, which is written in a canonical
way.  What is no spelling of a value, or does not fit the width that values are kept in, stays as
it is.
-/

namespace GraphCommit.Literal

/-- The namespace of the datatypes. -/
def space : String := "http://www.w3.org/2001/XMLSchema#"

def string : String := space ++ "string"
def boolean : String := space ++ "boolean"
def integer : String := space ++ "integer"
def decimal : String := space ++ "decimal"
def double : String := space ++ "double"

/-- The datatypes whose values are integers. -/
def integers : List String :=
  ["integer", "long", "int", "short", "byte", "unsignedLong", "unsignedInt", "unsignedShort",
   "unsignedByte", "positiveInteger", "negativeInteger", "nonPositiveInteger",
   "nonNegativeInteger"].map (space ++ ·)

/-! ## Spellings of numbers -/

/-- A decimal numeral: the sign, and the digits before and behind the point. -/
structure Numeral where
  negative : Bool
  whole : List Char
  fraction : List Char
  hasPoint : Bool
  deriving DecidableEq, Repr

/-- The number that a row of digits spells out. -/
def number (digits : List Char) : Nat := digits.foldl (fun n c => 10 * n + (c.toNat - 48)) 0

def sign : List Char → Bool × List Char
  | '-' :: rest => (true, rest)
  | '+' :: rest => (false, rest)
  | text => (false, text)

/-- The numeral at the beginning of a text, which holds a digit, and the rest. -/
def numeral? (text : List Char) : Option (Numeral × List Char) :=
  let (negative, text) := sign text
  let whole := text.takeWhile Char.isDigit
  let rest := text.dropWhile Char.isDigit
  let (fraction, hasPoint, rest) :=
    match rest with
    | '.' :: more => (more.takeWhile Char.isDigit, true, more.dropWhile Char.isDigit)
    | _ => ([], false, rest)
  if whole.isEmpty && fraction.isEmpty then none
  else some (⟨negative, whole, fraction, hasPoint⟩, rest)

/-! ## Canonical spellings -/

def signed (negative : Bool) (text : String) : String := if negative then "-" ++ text else text

/-- The canonical spelling of an integer of 64 bits. -/
def integer? (text : List Char) : Option String :=
  match numeral? text with
  | some (n, []) =>
    let value := number n.whole
    let bound := Nat.pow 2 63
    if n.hasPoint || (if n.negative then bound < value else bound ≤ value) then none
    else some (signed (n.negative && value != 0) (toString value))
  | _ => none

/-- A row of digits without the zeros at its end. -/
def withoutZeros (digits : List Char) : List Char :=
  (digits.reverse.dropWhile (· == '0')).reverse

/-- The canonical spelling of a decimal, which is kept with 18 digits behind the point in 128
bits. -/
def decimal? (text : List Char) : Option String :=
  match numeral? text with
  | some (n, []) =>
    let fraction := withoutZeros n.fraction
    let value := number (n.whole ++ fraction) * Nat.pow 10 (18 - fraction.length)
    if 18 < fraction.length ∨ Nat.pow 2 127 ≤ value then none
    else
      let whole := toString (number n.whole)
      let body := if fraction.isEmpty then whole else whole ++ "." ++ String.ofList fraction
      some (signed (n.negative && value != 0) body)
  | _ => none

/-- The digits of a scaled number, with a point where it belongs. -/
def positional (s : Decimal.Scaled) : String :=
  let digits := (toString s.digits).toList
  if 0 ≤ s.exponent then String.ofList (digits ++ List.replicate s.exponent.toNat '0')
  else
    let places := (-s.exponent).toNat
    let padded := List.replicate (places + 1 - digits.length) '0' ++ digits
    let cut := padded.length - places
    String.ofList (padded.take cut ++ '.' :: padded.drop cut)

/-- The exponent that a text consists of, none being zero. -/
def exponent? (text : List Char) : Option Int :=
  match text with
  | [] => some 0
  | c :: rest =>
    if c = 'e' ∨ c = 'E' then
      let (negative, digits) := sign rest
      if digits.isEmpty || !digits.all Char.isDigit then none
      else some (if negative then -(number digits : Int) else number digits)
    else none

/-- The canonical spelling of `digits * 10 ^ scale` in the double format. -/
def doubleText (digits : Nat) (scale : Int) : String :=
  let size : Int := scale + (toString digits).length
  if digits = 0 ∨ size < -400 then "0"
  else if 400 < size then "INF"
  else
    let quotient :=
      if 0 ≤ scale then Decimal.Binary.ofQuotient (digits * Nat.pow 10 scale.toNat) 1
      else Decimal.Binary.ofQuotient digits (Nat.pow 10 (-scale).toNat)
    match quotient with
    | some b => positional (Decimal.shortest b)
    | none => "INF"

/-- The canonical spelling of a number of the double format. -/
def double? (text : List Char) : Option String :=
  if text = "NaN".toList then some "NaN"
  else if text = "INF".toList ∨ text = "+INF".toList then some "INF"
  else if text = "-INF".toList then some "-INF"
  else
    match numeral? text with
    | some (n, rest) =>
      (exponent? rest).map fun e =>
        signed n.negative (doubleText (number (n.whole ++ n.fraction)) (e - n.fraction.length))
    | none => none

def boolean? (value : String) : Option String :=
  if value = "true" ∨ value = "1" then some "true"
  else if value = "false" ∨ value = "0" then some "false"
  else none

/-! ## Literals -/

def plain (value : String) : Term := .literal value .plain

/-- A literal of a datatype, spelled canonically where it has a value. -/
def typed (value datatype : String) : Term :=
  let spelled (datatype : String) (spelling : Option String) : Term :=
    .literal (spelling.getD value) (.datatype datatype)
  if datatype = string then plain value
  else if datatype = boolean then spelled boolean (boolean? value)
  else if datatype = decimal then spelled decimal (decimal? value.toList)
  else if datatype = double then spelled double (double? value.toList)
  else if integers.contains datatype then
    match integer? value.toList with
    | some text => .literal text (.datatype integer)
    | none => .literal value (.datatype datatype)
  else .literal value (.datatype datatype)

/-- A literal in the language of a well-formed tag. -/
def tagged (value : String) (tag : String) : Term := .literal value (.language tag)

end GraphCommit.Literal
