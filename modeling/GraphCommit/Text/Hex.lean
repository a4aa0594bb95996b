/-!
# Bytes in hexadecimal

Each byte is written as two upper-case digits, the high half first.  What is written reads back
(`decode_encode`).
-/

namespace GraphCommit.Text.Hex

/-- The upper-case hexadecimal digit of a number below sixteen. -/
def digit (n : Nat) : Char :=
  if n < 10 then Char.ofNat (48 + n) else Char.ofNat (55 + n)

/-- The two digits of every byte, in order. -/
def encode : List UInt8 → List Char
  | [] => []
  | b :: rest => digit (b.toNat / 16) :: digit (b.toNat % 16) :: encode rest

/-- The value of a hexadecimal digit of either case. -/
def value? (c : Char) : Option Nat :=
  let n := c.toNat
  if 48 ≤ n ∧ n ≤ 57 then some (n - 48)
  else if 65 ≤ n ∧ n ≤ 70 then some (n - 55)
  else if 97 ≤ n ∧ n ≤ 102 then some (n - 87)
  else none

/-- Reads pairs of digits of either case; anything else is no sequence of bytes. -/
def decode : List Char → Option (List UInt8)
  | [] => some []
  | [_] => none
  | high :: low :: rest => do
    let h ← value? high
    let l ← value? low
    let bytes ← decode rest
    return UInt8.ofNat (16 * h + l) :: bytes

/-- A digit has the value that it was written for. -/
theorem value?_digit {n : Nat} (h : n < 16) : value? (digit n) = some n := by
  revert n; decide

/-- Reading undoes writing. -/
@[simp] theorem decode_encode (bytes : List UInt8) : decode (encode bytes) = some bytes := by
  induction bytes with
  | nil => rfl
  | cons b rest ih =>
    have hb : b.toNat < 256 := b.toNat_lt
    have hsplit : 16 * (b.toNat / 16) + b.toNat % 16 = b.toNat := Nat.div_add_mod b.toNat 16
    simp only [encode, decode, value?_digit (show b.toNat / 16 < 16 by omega),
      value?_digit (show b.toNat % 16 < 16 by omega), ih]
    change some (UInt8.ofNat (16 * (b.toNat / 16) + b.toNat % 16) :: rest) = some (b :: rest)
    rw [hsplit, UInt8.ofNat_toNat]

end GraphCommit.Text.Hex
