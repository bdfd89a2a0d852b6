/-!
# Binary64 numbers

A double is its sign and its magnitude, the magnitude being the low
sixty-three bits of the word read as one number. That reading is chosen
because it makes order easy: among numbers that are not NaN, a larger
magnitude is a larger absolute value, infinity included. So the comparison of
two doubles is the comparison of two integers (`rank`), and its laws are the
laws of integers.

The exact value of a finite double is `scaled / 2 ^ 1074`: every finite
double is a whole multiple of the smallest positive one.
-/

namespace StartStep

/-- An IEEE-754 binary64 number: the sign bit and the other sixty-three bits,
which are a number below `2 ^ 63`. -/
structure Double where
  negative : Bool
  magnitude : Fin 0x8000000000000000
deriving DecidableEq

namespace Double

/-- How many magnitudes share one exponent, namely `2 ^ 52`. -/
def binade : Nat := 0x10000000000000

/-- The magnitude of the infinities; everything above it is NaN. -/
def infinityMagnitude : Nat := 2047 * binade

/-- The double a 64-bit word stands for. -/
def ofBits (word : UInt64) : Double where
  negative := 0x8000000000000000 ≤ word.toNat
  magnitude := ⟨word.toNat % 0x8000000000000000, Nat.mod_lt _ (by decide)⟩

def nan : Double := ⟨false, ⟨infinityMagnitude + binade / 2, by decide⟩⟩

def infinity (negative : Bool) : Double := ⟨negative, ⟨infinityMagnitude, by decide⟩⟩

def zero (negative : Bool) : Double := ⟨negative, ⟨0, by decide⟩⟩

def isNaN (x : Double) : Bool := infinityMagnitude < x.magnitude.val

def isFinite (x : Double) : Bool := x.magnitude.val < infinityMagnitude

def isZero (x : Double) : Bool := x.magnitude.val == 0

/-- The power of two above `2 ^ (-1074)` that the significand counts: one less
than the exponent field, subnormal numbers sharing the smallest. -/
def unitExponent (x : Double) : Nat := x.magnitude.val / binade - 1

/-- The significand of a finite number, below `2 ^ 53`. -/
def significand (x : Double) : Nat := x.magnitude.val - x.unitExponent * binade

/-- The absolute value of a finite number, counted in units of `2 ^ (-1074)`. -/
def scaledMagnitude (x : Double) : Nat := x.significand <<< x.unitExponent

/-- The value of a finite number, counted in units of `2 ^ (-1074)`. -/
def scaled (x : Double) : Int :=
  if x.negative then -(x.scaledMagnitude : Int) else x.scaledMagnitude

/-- The place of a number in the order of all doubles that are not NaN. The
two zeros share one place. -/
def rank (x : Double) : Int :=
  if x.negative then -(x.magnitude.val : Int) else x.magnitude.val

/-- The order of two doubles; NaN has no order with anything. -/
def order (x y : Double) : Option Ordering :=
  if x.isNaN || y.isNaN then none else some (compare x.rank y.rank)

/-- Equality as numbers: the zeros are equal, NaN is equal to nothing. -/
def numEq (x y : Double) : Bool := x.order y == some .eq

end Double

end StartStep
