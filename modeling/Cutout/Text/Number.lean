/-!
# Numbers in texts

The values of digits, and of numbers in decimal digits. A number has no sign or a plus sign, and has to
fit into a number of bits.
-/

namespace Cutout.Text

/-- The value of a digit, if the base has it. The base is at most sixteen. -/
def digit? (base : Nat) (c : Char) : Option Nat :=
  let v :=
    if c.isDigit then some (c.toNat - '0'.toNat)
    else if 'a' ≤ c && c ≤ 'f' then some (c.toNat - 'a'.toNat + 10)
    else if 'A' ≤ c && c ≤ 'F' then some (c.toNat - 'A'.toNat + 10)
    else none
  v.filter (· < base)

/-- The value of decimal digits. -/
def digitsValue (ds : List Char) : Nat :=
  ds.foldl (fun n d => 10 * n + (d.toNat - '0'.toNat)) 0

/-- The number of digits that fits into some bits. -/
def digits? (bits : Nat) (ds : List Char) : Option Nat :=
  if ds.isEmpty || !ds.all Char.isDigit then none
  else if digitsValue ds < Nat.pow 2 bits then some (digitsValue ds)
  else none

/-- The number that a text is, if it fits into some bits. -/
def natural? (bits : Nat) : List Char → Option Nat
  | '+' :: ds => digits? bits ds
  | ds => digits? bits ds

end Cutout.Text
