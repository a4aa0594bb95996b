import GraphCommit.Decimal.Binary

/-!
# The shortest decimal that reads back

Among all decimals that are nearer to a binary number than to any other, the one with the fewest
digits is taken, and of several such the nearest.  The reals that read back form an interval
around the number, whose ends belong to it when the mantissa is even.  For each count of digits
only the two neighbours of the number on that decimal grid need to be looked at.
-/

namespace GraphCommit.Decimal

/-- The decimal `digits * 10 ^ exponent`. -/
structure Scaled where
  digits : Nat
  exponent : Int
  deriving DecidableEq, Repr, Inhabited

namespace Shortest

/-- Four times the number and the ends of its interval, over a common denominator. -/
structure Interval where
  low : Nat
  value : Nat
  high : Nat
  den : Nat
  closed : Bool

/-- The interval of the reals that round to `b`.  Below a power of two the next number is only half
as far away. -/
def interval (b : Binary) : Interval :=
  let lowStep := if b.mantissa = Nat.pow 2 52 ∧ Binary.least < b.exponent then 1 else 2
  let low := 4 * b.mantissa - lowStep
  let high := 4 * b.mantissa + 2
  let value := 4 * b.mantissa
  let closed := b.mantissa % 2 == 0
  if 0 ≤ b.exponent then
    let s := Nat.pow 2 b.exponent.toNat
    ⟨low * s, value * s, high * s, 4, closed⟩
  else ⟨low, value, high, 4 * Nat.pow 2 (-b.exponent).toNat, closed⟩

/-- The interval with everything divided by `10 ^ e`. -/
def Interval.scaled (i : Interval) (e : Int) : Interval :=
  if 0 ≤ e then { i with den := i.den * Nat.pow 10 e.toNat }
  else
    let s := Nat.pow 10 (-e).toNat
    { i with low := i.low * s, value := i.value * s, high := i.high * s }

/-- Whether the natural number `n` lies in the interval. -/
def Interval.holds (i : Interval) (n : Nat) : Bool :=
  let x := n * i.den
  if i.closed then i.low ≤ x && x ≤ i.high else i.low < x && x < i.high

/-- The natural number in the interval that is nearest to the value, of two equally near ones the
even one, if one of the value's two neighbours is in it. -/
def Interval.nearest? (i : Interval) : Option Nat :=
  let below := i.value / i.den
  let above := below + 1
  let r := 2 * (i.value % i.den)
  match i.holds below, i.holds above with
  | true, true =>
    if r < i.den then some below
    else if i.den < r then some above
    else some (below + below % 2)
  | true, false => some below
  | false, true => some above
  | false, false => none

/-- The largest `k` with `10 ^ k ≤ value / den`, looked for downwards from `k`. -/
def decimalLog (value den : Nat) : Nat → Int → Int
  | 0, k => k
  | fuel + 1, k =>
    let reached :=
      if 0 ≤ k then den * Nat.pow 10 k.toNat ≤ value else den ≤ value * Nat.pow 10 (-k).toNat
    if reached then k else decimalLog value den fuel (k - 1)

/-- Tries grids of more and more digits, the first having its unit at `10 ^ e`. -/
def search (i : Interval) : Nat → Int → Option Scaled
  | 0, _ => none
  | fuel + 1, e =>
    match (i.scaled e).nearest? with
    | some n => if n = 0 then search i fuel (e - 1) else some ⟨n, e⟩
    | none => search i fuel (e - 1)

/-- Moves zeros at the end of the digits into the exponent. -/
def withoutZeros : Nat → Scaled → Scaled
  | 0, s => s
  | fuel + 1, s =>
    if s.digits ≠ 0 ∧ s.digits % 10 = 0 then withoutZeros fuel ⟨s.digits / 10, s.exponent + 1⟩
    else s

end Shortest

open Shortest in
/-- The shortest decimal that reads back as `b`. -/
def shortest (b : Binary) : Scaled :=
  if b.mantissa = 0 then ⟨0, 0⟩
  else
    let i := interval b
    let top := decimalLog i.value i.den 700 310
    withoutZeros 20 ((search i 20 top).getD ⟨0, 0⟩)

end GraphCommit.Decimal
