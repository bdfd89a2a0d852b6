import StartStep.Double

/-!
# Rounding to the nearest double

A positive ratio of whole numbers is rounded to the nearest double, a tie
going to the even significand. Conversion of integers, and products and
quotients of finite doubles, are roundings of the exact result.

The magnitude of a double is `unitExponent * binade + significand`, so a
significand that rounds up to `2 ^ 53` carries into the exponent by plain
addition, and one that rounds past the largest finite number is clamped to
infinity.
-/

namespace StartStep.Double

/-- The whole number nearest to `a / d`, a tie going to the even one. -/
def nearestQuotient (a d : Nat) : Nat :=
  let q := a / d
  let twice := 2 * (a % d)
  if twice < d then q else if d < twice then q + 1 else q + q % 2

/-- How far the unit must be raised above the smallest one for `a / d`, counted
in smallest units, to have a significand below `2 ^ 53`. -/
def unitFor (a d : Nat) : Nat := (a / d).log2 - 52

/-- The magnitude of the double nearest to `a / d` smallest units. -/
def magnitudeOfUnits (a d : Nat) : Nat :=
  let p := unitFor a d
  min (p * binade + nearestQuotient a (d <<< p)) infinityMagnitude

/-- The double nearest to `± a / d` smallest units. -/
def ofUnits (negative : Bool) (a d : Nat) : Double where
  negative := negative
  magnitude := ⟨magnitudeOfUnits a d, by
    have : magnitudeOfUnits a d ≤ infinityMagnitude := Nat.min_le_right ..
    have : infinityMagnitude < 0x8000000000000000 := by decide
    omega⟩

/-- The double nearest to a whole number. -/
def ofNat (n : Nat) : Double := ofUnits false (n <<< 1074) 1

/-- The double nearest to an integer. -/
def ofInt (i : Int) : Double := ofUnits (i < 0) (i.natAbs <<< 1074) 1

/-- The product of two finite doubles, rounded. -/
def times (x y : Double) : Double :=
  ofUnits (x.negative != y.negative) (x.scaledMagnitude * y.scaledMagnitude) (1 <<< 1074)

/-- The quotient of two finite doubles, the second not zero, rounded. -/
def dividedBy (x y : Double) : Double :=
  ofUnits (x.negative != y.negative) (x.scaledMagnitude <<< 1074) y.scaledMagnitude

/-- The double nearest to `± n * 10 ^ e`. Numbers beyond all doubles, and those
far below the smallest one, are recognised by their exponents alone. -/
def ofDecimal (negative : Bool) (n : Nat) (e : Int) : Double :=
  if n = 0 then zero negative
  else if 400 < e then infinity negative
  else if e + n.log2 < -400 then zero negative
  else if 0 ≤ e then ofUnits negative ((n * Nat.pow 10 e.toNat) <<< 1074) 1
  else ofUnits negative (n <<< 1074) (Nat.pow 10 e.natAbs)

/-- The double of the same magnitude and the opposite sign. -/
def negate (x : Double) : Double := { x with negative := !x.negative }

end StartStep.Double
