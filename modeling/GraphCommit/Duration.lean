/-!
# Lengths of time

A length of time is a natural number of nanoseconds.  Its text is written in the largest unit of
which it holds at least one (seconds, milliseconds, microseconds, else nanoseconds), with the
fraction of that unit given exactly and without trailing zeros.
-/

namespace GraphCommit

/-- A length of time, exact to the nanosecond. -/
structure Duration where
  nanoseconds : Nat
  deriving DecidableEq, Repr, Inhabited

namespace Duration

/-- A length given in whole seconds and nanoseconds, of which there may be more than a second. -/
def ofSeconds (seconds nanoseconds : Nat) : Duration :=
  ⟨seconds * 1000000000 + nanoseconds⟩

def ofMicroseconds (n : Nat) : Duration := ⟨n * 1000⟩

def ofMilliseconds (n : Nat) : Duration := ⟨n * 1000000⟩

/-- The decimal digits of `n`, filled with zeros on the left to `width` places. -/
def padded (width n : Nat) : List Char :=
  let digits := (toString n).toList
  List.replicate (width - digits.length) '0' ++ digits

/-- Drops the zeros at the end of a fraction. -/
def trimZeros (digits : List Char) : List Char :=
  (digits.reverse.dropWhile (· == '0')).reverse

/-- The fraction `n / 10 ^ places` after the point, or nothing when it is zero. -/
def fraction (places n : Nat) : String :=
  if n = 0 then "" else String.ofList ('.' :: trimZeros (padded places n))

/-- The length in units of `10 ^ places` nanoseconds, exactly. -/
def inUnits (d : Duration) (places : Nat) (unit : String) : String :=
  let scale := Nat.pow 10 places
  toString (d.nanoseconds / scale) ++ fraction places (d.nanoseconds % scale) ++ unit

/-- The length in the largest unit of which it holds at least one. -/
def text (d : Duration) : String :=
  if 1000000000 ≤ d.nanoseconds then d.inUnits 9 "s"
  else if 1000000 ≤ d.nanoseconds then d.inUnits 6 "ms"
  else if 1000 ≤ d.nanoseconds then d.inUnits 3 "µs"
  else d.inUnits 0 "ns"

end Duration

end GraphCommit
