import GraphCommit.Text.LowerCase.Table

/-!
# Lower case

The full lower-case form of a text.  A character alone has one form, or two in the case of the
capital `I` with a dot.  In a text, a capital sigma that ends a word becomes the final sigma: some
cased character stands before it and none after it, where characters that case ignores do not
count.
-/

namespace GraphCommit.Text.LowerCase

/-- The lower-case form of a character that stands alone. -/
def ofChar (c : Char) : List Char :=
  if c = 'İ' then ['i', '\u0307']
  else
    match runs.find? (fun run => run.contains c.toNat) with
    | some run => [Char.ofNat (c.toNat + run.shift).toNat]
    | none => [c]

/-- Whether the first character that case does not ignore is a cased one. -/
def meetsCased (text : List Char) : Bool :=
  match text.dropWhile caseIgnorable.contains with
  | [] => false
  | c :: _ => cased.contains c

/-- The form of a character between the reversed text before it and the text after it. -/
def inText (before : List Char) (c : Char) (after : List Char) : List Char :=
  if c = 'Σ' then
    if meetsCased before && !meetsCased after then ['ς'] else ['σ']
  else ofChar c

/-- The lower-case form of `after`, which follows the reversed text `before`. -/
def following (before : List Char) : List Char → List Char
  | [] => []
  | c :: after => inText before c after ++ following (c :: before) after

/-- The lower-case form of a text. -/
def ofText (text : List Char) : List Char := following [] text

end GraphCommit.Text.LowerCase
