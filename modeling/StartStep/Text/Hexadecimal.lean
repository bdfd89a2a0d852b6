/-!
# Hexadecimal numbers
-/

namespace StartStep.Text

/-- The value of a hexadecimal digit, of either case. -/
def hexValue (c : Char) : Option Nat :=
  if c.isDigit then some (c.toNat - '0'.toNat)
  else if 'a' ≤ c && c ≤ 'f' then some (c.toNat - 'a'.toNat + 10)
  else if 'A' ≤ c && c ≤ 'F' then some (c.toNat - 'A'.toNat + 10)
  else none

/-- The number written by hexadecimal digits. -/
def hexNumber (cs : List Char) : Option Nat :=
  cs.foldlM (fun n c => (hexValue c).map (n * 16 + ·)) 0

/-- The hexadecimal digits of a number, in lower case. -/
def hexDigits (n : Nat) : List Char := Nat.toDigits 16 n

end StartStep.Text
