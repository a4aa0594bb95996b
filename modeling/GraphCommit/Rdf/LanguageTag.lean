import GraphCommit.Text.Split

/-!
# Language tags

A tag is well formed when its subtags, separated by hyphens, come in the order that BCP 47 lays
down: the language with up to three extensions of three letters, the script of four letters, the
region of two letters or three digits, variants, extensions behind a single character, and private
subtags behind an `x`.  A few tags from before that order are well formed as they are.
-/

namespace GraphCommit.LanguageTag

/-- Tags that were registered before there was a grammar. -/
def grandfathered : List String :=
  ["art-lojban", "cel-gaulish", "en-gb-oed", "i-ami", "i-bnn", "i-default", "i-enochian", "i-hak",
   "i-klingon", "i-lux", "i-mingo", "i-navajo", "i-pwn", "i-tao", "i-tay", "i-tsu", "no-bok",
   "no-nyn", "sgn-be-fr", "sgn-be-nl", "sgn-ch-de", "zh-guoyu", "zh-hakka", "zh-min",
   "zh-min-nan", "zh-xiang"]

/-- How far the parts of a tag have been read. -/
inductive Place where
  /-- Behind the language, after so many extensions of it. -/
  | language (extensions : Nat)
  | script
  | region
  /-- Behind the single character of an extension, or behind one of its subtags. -/
  | extension (isEmpty : Bool)
  | private_ (isEmpty : Bool)
  deriving DecidableEq, Repr

/-- Whether a subtag may name a variant. -/
def isVariant (subtag : List Char) : Bool :=
  match subtag with
  | c :: _ =>
    (c.isAlpha && 5 ≤ subtag.length) || (c.isDigit && 4 ≤ subtag.length)
  | [] => false

/-- The place behind a subtag, if it may stand at the given place. -/
def Place.next (place : Place) (subtag : List Char) : Option Place :=
  let n := subtag.length
  if n = 0 ∨ 8 < n ∨ !subtag.all Char.isAlphanum then none
  else
    match place with
    | .private_ _ => some (.private_ false)
    | _ =>
      if n = 1 then
        if place = .extension true then none
        else if subtag = ['x'] then some (.private_ true)
        else some (.extension true)
      else
        match place with
        | .extension _ => some (.extension false)
        | .language count =>
          if n = 3 ∧ subtag.all Char.isAlpha ∧ count < 3 then some (.language (count + 1))
          else if n = 4 ∧ subtag.all Char.isAlpha then some .script
          else if (n = 2 ∧ subtag.all Char.isAlpha) ∨ (n = 3 ∧ subtag.all Char.isDigit) then
            some .region
          else if isVariant subtag then some .region
          else none
        | .script =>
          if (n = 2 ∧ subtag.all Char.isAlpha) ∨ (n = 3 ∧ subtag.all Char.isDigit) then some .region
          else if isVariant subtag then some .region
          else none
        | .region => if isVariant subtag then some .region else none
        | .private_ _ => none

/-- Whether a tag may end at the place. -/
def Place.isFinal : Place → Bool
  | .extension isEmpty | .private_ isEmpty => !isEmpty
  | _ => true

/-- Whether the subtags can be read from the place on. -/
def readFrom (place : Place) : List (List Char) → Bool
  | [] => place.isFinal
  | subtag :: rest =>
    match place.next subtag with
    | some place => readFrom place rest
    | none => false

/-- Whether a tag in lower case is well formed. -/
def isWellFormed (tag : List Char) : Bool :=
  grandfathered.contains (String.ofList tag) ||
    match Text.splitOn '-' tag with
    | ['x'] :: rest => readFrom (.private_ true) rest
    | language :: rest =>
      2 ≤ language.length && language.length ≤ 8 && language.all Char.isAlpha &&
        readFrom (.language (if language.length < 4 then 0 else 3)) rest
    | [] => false

/-- The lower-case form of a well-formed tag. -/
def ofText? (text : List Char) : Option String :=
  let tag := text.map Char.toLower
  if isWellFormed tag then some (String.ofList tag) else none

end GraphCommit.LanguageTag
