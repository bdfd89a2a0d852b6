import StartStep.Double

/-!
# The fewest digits that read back

A finite double stands for every real number that rounds to it: an interval
around it, whose ends belong to it exactly when its significand is even. Its
shortest decimal is the one of fewest digits inside that interval, and among
those the nearest to the double. For each number of digits only the two grid
points around the double can be nearest, so those two are tested, on grids of
one, two, … seventeen digits; seventeen always suffice.
-/

namespace StartStep.Double

/-- A positive decimal: `coefficient * 10 ^ exponent`. -/
structure Decimal where
  coefficient : Nat
  exponent : Int
deriving DecidableEq

/-- Which of two equally near decimals is taken. -/
inductive Tie
  | up
  | even
deriving DecidableEq

/-- The interval of reals that round to a positive finite double. Lengths are
counted in quarters of the smallest unit, so that all three are whole. -/
structure Basin where
  value : Nat
  low : Nat
  high : Nat
  closed : Bool

def basin (x : Double) : Basin :=
  let value := 4 * x.scaledMagnitude
  let unit := 1 <<< x.unitExponent
  let narrow := x.significand == binade && 0 < x.unitExponent
  { value
    low := value - (if narrow then unit else 2 * unit)
    high := value + 2 * unit
    closed := x.significand % 2 == 0 }

/-- Quarters of the smallest unit in one. -/
def quarters : Nat := 1 <<< 1076

/-- How many places after the point the first digit of `num / den` stands,
looked for up to `fuel` places; the ratio is below one. -/
def leadingPlace (den : Nat) : Nat → Nat → Nat
  | 0, _ => 0
  | fuel + 1, num => if den ≤ num * 10 then 1 else leadingPlace den fuel (num * 10) + 1

/-- The power of ten of the first digit of `num / den`. -/
def leadingExponent (num den : Nat) : Int :=
  if den ≤ num then ((num / den).repr.length : Int) - 1 else -(leadingPlace den 400 num : Int)

/-- The decimal nearest to the basin's value among multiples of `10 ^ step`
that lie in the basin. -/
def Basin.onGrid (b : Basin) (tie : Tie) (step : Int) : Option Nat :=
  let up := Nat.pow 10 (-step).toNat
  let den := quarters * Nat.pow 10 step.toNat
  let value := b.value * up
  let inside (c : Nat) : Bool :=
    if b.closed then b.low * up ≤ c * den && c * den ≤ b.high * up
    else b.low * up < c * den && c * den < b.high * up
  let below := value / den
  let rest := value % den
  let aboveNearer :=
    if 2 * rest < den then false
    else if den < 2 * rest then true
    else match tie with
      | .up => true
      | .even => below % 2 == 1
  match inside below, inside (below + 1) with
  | true, true => some (if aboveNearer then below + 1 else below)
  | true, false => some below
  | false, true => some (below + 1)
  | false, false => none

/-- Tries grids of finer and finer step. -/
def Basin.search (b : Basin) (tie : Tie) : Nat → Int → Decimal
  | 0, step => ⟨0, step⟩
  | fuel + 1, step =>
      match b.onGrid tie step with
      | some c => ⟨c, step⟩
      | none => b.search tie fuel (step - 1)

/-- The shortest decimal of a positive finite double. -/
def shortest (tie : Tie) (x : Double) : Decimal :=
  let b := x.basin
  b.search tie 18 (leadingExponent b.value quarters)

end StartStep.Double
