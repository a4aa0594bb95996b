/-!
# Binary numbers of 53 digits

A finite, non-negative number of the double format is a natural mantissa times a power of two.
Quotients of natural numbers are rounded to the nearest such number, a tie going to the even
mantissa; what is too large has no such number.
-/

namespace GraphCommit.Decimal

/-- The number `mantissa * 2 ^ exponent`, with a mantissa below `2 ^ 53`. -/
structure Binary where
  mantissa : Nat
  exponent : Int
  deriving DecidableEq, Repr, Inhabited

namespace Binary

/-- The smallest exponent of the format. -/
def least : Int := -1074

/-- The largest exponent of the format. -/
def greatest : Int := 971

def zero : Binary := ⟨0, least⟩

/-- The natural number nearest to `num / den`, a tie going to the even one. -/
def roundHalfEven (num den : Nat) : Nat :=
  let q := num / den
  let r := num % den
  if 2 * r < den then q
  else if den < 2 * r then q + 1
  else q + q % 2

/-- The quotient `num / den` in units of `2 ^ e`, rounded to a natural number. -/
def inUnits (num den : Nat) (e : Int) : Nat :=
  if 0 ≤ e then roundHalfEven num (den * Nat.pow 2 e.toNat)
  else roundHalfEven (num * Nat.pow 2 (-e).toNat) den

/-- Whether `2 ^ k ≤ num / den`. -/
def powerAtMost (num den : Nat) (k : Int) : Bool :=
  if 0 ≤ k then den * Nat.pow 2 k.toNat ≤ num else den ≤ num * Nat.pow 2 (-k).toNat

/-- The largest `k` with `2 ^ k ≤ num / den`, for a positive quotient. -/
def floorLog (num den : Nat) : Int :=
  let k : Int := (num.log2 : Int) - (den.log2 : Int)
  if powerAtMost num den k then k else k - 1

/-- The number nearest to `num / den`, or nothing if that is too large. -/
def ofQuotient (num den : Nat) : Option Binary :=
  if num = 0 then some zero
  else
    let e := max least (floorLog num den - 52)
    let m := inUnits num den e
    let n : Binary := if m = Nat.pow 2 53 then ⟨Nat.pow 2 52, e + 1⟩ else ⟨m, e⟩
    if greatest < n.exponent then none else some n

/-- The number as a quotient of natural numbers. -/
def quotient (b : Binary) : Nat × Nat :=
  if 0 ≤ b.exponent then (b.mantissa * Nat.pow 2 b.exponent.toNat, 1)
  else (b.mantissa, Nat.pow 2 (-b.exponent).toNat)

/-- The product, rounded once. -/
def mul (a b : Binary) : Option Binary :=
  ofQuotient (a.quotient.1 * b.quotient.1) (a.quotient.2 * b.quotient.2)

/-- The quotient by a number other than zero, rounded once. -/
def div (a b : Binary) : Option Binary :=
  ofQuotient (a.quotient.1 * b.quotient.2) (a.quotient.2 * b.quotient.1)

/-- The number nearest to a power of ten of at most 308. -/
def powerOfTen (k : Nat) : Binary := (ofQuotient (Nat.pow 10 k) 1).getD zero

/-- The number nearest to a natural number of a 64-bit word. -/
def ofWord (n : Nat) : Binary := (ofQuotient n 1).getD zero

/-- Divides by ten to the power of `308` as often as it is asked to, as long as anything is left. -/
def divideByGreatPowers : Nat → Binary → Binary
  | 0, b => b
  | n + 1, b =>
    if b.mantissa = 0 then b
    else divideByGreatPowers n ((b.div (powerOfTen 308)).getD zero)

/-- The number `word * 10 ^ scale`: the word is rounded first and then multiplied with, or divided
by, the rounded power of ten, each step rounding once.  A result that is too large is none. -/
def ofScaled (word : Nat) (scale : Int) : Option Binary :=
  let b := ofWord word
  if 0 ≤ scale then
    if 308 < scale then (if b.mantissa = 0 then some b else none)
    else b.mul (powerOfTen scale.toNat)
  else
    let down := (-scale).toNat
    let great := (down - 1) / 308
    let rest := divideByGreatPowers (min great 3) b
    if rest.mantissa = 0 then some zero
    else rest.div (powerOfTen (down - 308 * great))

end Binary

end GraphCommit.Decimal
