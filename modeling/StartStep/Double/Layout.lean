import StartStep.Double.Shortest

/-!
# How a double is written

The digits of a double are its shortest decimal; where the point goes, and
when an exponent is written, is a layout. Three layouts are in use: the text
of a value (`display`), the detailed form of a value (`detailed`), and JSON
(`json`). They differ in nothing but the fields of one record.
-/

namespace StartStep.Double

/-- The decisions of one way of writing doubles. -/
structure Layout where
  /-- The decimal exponents written without an exponent; `none` for all. -/
  plain : Option (Int × Int)
  /-- Whether a whole number is marked by `.0`. -/
  wholeMark : Bool
  /-- Whether a positive exponent has a plus sign. -/
  plusSign : Bool
  tie : Tie

/-- Every digit is written out and whole numbers look like integers. -/
def display : Layout := ⟨none, false, false, .up⟩

/-- Whole numbers keep `.0`; from `1e16` on and below `1e-4` an exponent is used. -/
def detailed : Layout := ⟨some (-4, 15), true, false, .up⟩

/-- As `detailed`, with one more place below one and `e+16` for large numbers. -/
def json : Layout := ⟨some (-5, 15), true, true, .even⟩

/-- The decimal digits of a number without its trailing zeros. -/
def significantDigits (d : Decimal) : List Char :=
  let digits := (toString d.coefficient).toList
  match (digits.reverse.dropWhile (· == '0')).reverse with
  | [] => ['0']
  | kept => kept

/-- The decimal exponent of the first digit. -/
def Decimal.leading (d : Decimal) : Int :=
  d.exponent + ((toString d.coefficient).length : Int) - 1

/-- Digits with the point after the first `places` of them, zeros filling the
gap on either side. -/
def pointed (digits : List Char) (places : Int) (wholeMark : Bool) : List Char :=
  if places ≤ 0 then
    '0' :: '.' :: List.replicate (-places).toNat '0' ++ digits
  else
    let n := places.toNat
    if digits.length ≤ n then
      digits ++ List.replicate (n - digits.length) '0' ++ (if wholeMark then ['.', '0'] else [])
    else
      digits.take n ++ '.' :: digits.drop n

/-- Digits in scientific notation. -/
def scientific (digits : List Char) (leading : Int) (plusSign : Bool) : List Char :=
  let mantissa := match digits with
    | d :: [] => [d]
    | d :: rest => d :: '.' :: rest
    | [] => []
  let sign := if leading < 0 then ['-'] else if plusSign then ['+'] else []
  mantissa ++ 'e' :: sign ++ (toString leading.natAbs).toList

/-- The text of a decimal under a layout. -/
def Layout.decimal (l : Layout) (d : Decimal) : List Char :=
  let digits := significantDigits d
  let isPlain := match l.plain with
    | none => true
    | some (least, greatest) => least ≤ d.leading && d.leading ≤ greatest
  if isPlain then pointed digits (d.leading + 1) l.wholeMark
  else scientific digits d.leading l.plusSign

/-- The text of a double under a layout. -/
def write (l : Layout) (x : Double) : String :=
  if x.isNaN then "NaN"
  else
    let body := if x.isFinite then
        if x.isZero then pointed ['0'] 1 l.wholeMark else l.decimal (shortest l.tie x)
      else ['i', 'n', 'f']
    String.ofList (if x.negative then '-' :: body else body)

end StartStep.Double
