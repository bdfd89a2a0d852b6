import StartStep.Json
import StartStep.Json.Fault
import StartStep.Double.Rounding

/-!
# Numerals

A numeral is read in two steps: its digits are taken from the text, and then
its number is worked out. Only the second step can find a numeral too large.

The number of a numeral with a point, an exponent, or too many digits for a
64-bit integer is a double. Its leading digits are gathered into a 64-bit
integer as long as they fit, the integer is rounded to a double, and this is
multiplied or divided by the double of a power of ten. Each step rounds, so
the result can differ in the last place from the double nearest to the
numeral.
-/

namespace StartStep.Json

/-- The parts of a numeral, digits being numbers below ten. -/
structure Numeral where
  negative : Bool
  whole : List Nat
  fraction : Option (List Nat)
  /-- Whether the exponent is negative, and its digits. -/
  exponent : Option (Bool × List Nat)
deriving DecidableEq

/-- A numeral that could not be read: the fault met by a reader that wants the
number, and by one that only passes over it. -/
structure NumeralFault where
  reading : Fault
  skipping : Fault
deriving DecidableEq

/-- The largest integer that is gathered from digits. -/
def greatestNatural : Nat := 0xFFFFFFFFFFFFFFFF

def digitValue (c : Char) : Nat := c.toNat - '0'.toNat

/-- The digits a text begins with, and what follows them. -/
def takeDigits (cs : List Char) : List Nat × List Char :=
  ((cs.takeWhile Char.isDigit).map digitValue, cs.dropWhile Char.isDigit)

/-- The fault of a numeral that stops before a digit it needs. -/
def NumeralFault.at (rest : List Char) : NumeralFault :=
  ⟨if rest.isEmpty then .truncated else .malformed, .malformed⟩

/-- The exponent of a numeral, if its mark comes next. -/
def Numeral.readExponent (cs : List Char) :
    Except NumeralFault (Option (Bool × List Nat) × List Char) :=
  let after (negative : Bool) (cs : List Char) :=
    match takeDigits cs with
    | ([], rest) => .error (.at rest)
    | (digits, rest) => .ok (some (negative, digits), rest)
  match cs with
  | c :: rest =>
      if c == 'e' || c == 'E' then
        match rest with
        | '+' :: rest => after false rest
        | '-' :: rest => after true rest
        | rest => after false rest
      else .ok (none, c :: rest)
  | [] => .ok (none, [])

/-- The fraction of a numeral, if a point comes next. -/
def Numeral.readFraction (cs : List Char) :
    Except NumeralFault (Option (List Nat) × List Char) :=
  match cs with
  | '.' :: rest =>
      match takeDigits rest with
      | ([], rest) => .error (.at rest)
      | (digits, rest) => .ok (some digits, rest)
  | cs => .ok (none, cs)

/-- The whole digits of a numeral: at least one, and no zero before another. -/
def Numeral.readWhole (cs : List Char) : Except NumeralFault (List Nat × List Char) :=
  match takeDigits cs with
  | ([], rest) => .error (.at rest)
  | (0 :: _ :: _, _) => .error ⟨.malformed, .malformed⟩
  | (digits, rest) => .ok (digits, rest)

/-- A numeral, and what follows it. -/
def Numeral.read (cs : List Char) : Except NumeralFault (Numeral × List Char) := do
  let (negative, cs) := match cs with
    | '-' :: rest => (true, rest)
    | cs => (false, cs)
  let (whole, cs) ← readWhole cs
  let (fraction, cs) ← readFraction cs
  let (exponent, cs) ← readExponent cs
  .ok (⟨negative, whole, fraction, exponent⟩, cs)

/-- Gathers digits behind a number while the result stays a 64-bit integer;
gives the number, how many digits were gathered, and how many were left. -/
def gather : Nat → List Nat → Nat × Nat × Nat
  | n, [] => (n, 0, 0)
  | n, d :: rest =>
      if n * 10 + d ≤ greatestNatural then
        let (m, taken, left) := gather (n * 10 + d) rest
        (m, taken + 1, left)
      else (n, 0, rest.length + 1)

/-- The double of a power of ten. -/
def powerOfTen (n : Nat) : Double := Double.ofNat (Nat.pow 10 n)

/-- Divides by `10 ^ n`, in steps of at most `10 ^ 308`. Three steps leave
nothing of a number below `2 ^ 64`, so no more are ever made. -/
def divideByTens : Nat → Double → Nat → Double
  | 0, x, _ => x
  | steps + 1, x, n =>
      if n ≤ 308 then x.dividedBy (powerOfTen n)
      else divideByTens steps (x.dividedBy (powerOfTen 308)) (n - 308)

/-- `significand * 10 ^ exponent` as a double; too large a number is refused. -/
def doubleOfParts (significand : Nat) (exponent : Int) : Except Fault Double :=
  let x := Double.ofNat significand
  if exponent < 0 then .ok (divideByTens 4 x exponent.natAbs)
  else if x.isZero then .ok x
  else if 308 < exponent then .error .malformed
  else
    let y := x.times (powerOfTen exponent.toNat)
    if y.isFinite then .ok y else .error .malformed

/-- The number written by digits. -/
def digitsValue (digits : List Nat) : Nat := digits.foldl (fun n d => n * 10 + d) 0

/-- The number of a numeral. -/
def Numeral.number (n : Numeral) : Except Fault Number :=
  let (whole, _, left) := gather 0 n.whole
  let isInteger := n.fraction.isNone && n.exponent.isNone && left == 0
  if isInteger && !n.negative then .ok (.integer whole)
  else if isInteger && 0 < whole && whole ≤ 0x8000000000000000 then .ok (.integer (-(whole : Int)))
  else
    let (significand, places) := match n.fraction with
      | none => (whole, 0)
      | some digits =>
          let (m, taken, _) := gather whole digits
          (m, taken)
    let shift : Int := match n.exponent with
      | none => 0
      | some (true, digits) => -(digitsValue digits : Int)
      | some (false, digits) => digitsValue digits
    (doubleOfParts significand ((left : Int) - places + shift)).map fun x =>
      .float (if n.negative then x.negate else x)

end StartStep.Json
