/-!
# Natural numbers in texts

Reading a natural number of a fixed width: an optional plus sign and one or more decimal digits,
leading zeros allowed.
-/

namespace GraphCommit.Text.Number

/-- Why a text is no number. -/
inductive Error where
  | empty
  | invalidDigit
  | tooLarge
  deriving DecidableEq, Repr

def Error.message : Error → String
  | empty => "cannot parse integer from empty string"
  | invalidDigit => "invalid digit found in string"
  | tooLarge => "number too large to fit in target type"

/-- The value of a row of digits behind others of value `n`, below `bound`.  The first fault in
reading order wins. -/
def digits (bound : Nat) : Nat → List Char → Except Error Nat
  | n, [] => .ok n
  | n, c :: rest =>
    if c.isDigit then
      let m := 10 * n + (c.toNat - 48)
      if m < bound then digits bound m rest else .error .tooLarge
    else .error .invalidDigit

/-- The number below `bound` that a text spells out. -/
def read (bound : Nat) (text : List Char) : Except Error Nat :=
  match text with
  | [] => .error .empty
  | ['+'] => .error .invalidDigit
  | '+' :: rest => digits bound 0 rest
  | _ => digits bound 0 text

end GraphCommit.Text.Number
