import StartStep.Double.Rounding
import StartStep.Int64Range
import StartStep.Toml

/-!
# TOML numbers, dates and times

A numeral's digits may be grouped by single underscores. Whole numbers are
signed 64-bit integers, to base ten or, after `0x`, `0o` and `0b`, to other
bases; a point or an exponent makes a double. Dates and times are checked and
not kept.
-/

namespace StartStep.Toml

/-! ## Numbers -/

/-- The value of a digit to a base. -/
def digitOf (base : Nat) (c : Char) : Option Nat :=
  let value :=
    if c.isDigit then c.toNat - '0'.toNat
    else if 'a' ≤ c && c ≤ 'f' then c.toNat - 'a'.toNat + 10
    else if 'A' ≤ c && c ≤ 'F' then c.toNat - 'A'.toNat + 10
    else base
  if value < base then some value else none

/-- The digits behind a digit: more digits, single underscores between them. -/
def moreDigits (base : Nat) : List Char → Option (List Nat × List Char)
  | [] => some ([], [])
  | '_' :: [] => none
  | '_' :: c :: rest => do
      let d ← digitOf base c
      let (more, rest) ← moreDigits base rest
      some (d :: more, rest)
  | c :: rest =>
      match digitOf base c with
      | some d => do
          let (more, rest) ← moreDigits base rest
          some (d :: more, rest)
      | none => some ([], c :: rest)

/-- Digits, of which there is at least one. -/
def someDigits (base : Nat) : List Char → Option (List Nat × List Char)
  | [] => none
  | c :: rest => do
      let d ← digitOf base c
      let (more, rest) ← moreDigits base rest
      some (d :: more, rest)

/-- Decimal digits of which the first is zero only if it is the only one. -/
def wholeDigits : List Char → Option (List Nat × List Char)
  | '0' :: rest => some ([0], rest)
  | cs => someDigits 10 cs

/-- The number written by digits. -/
def digitsNumber (base : Nat) (digits : List Nat) : Nat :=
  digits.foldl (fun n d => n * base + d) 0

/-- A whole number, if it is a signed 64-bit integer. -/
def inRange (i : Int) : Option Toml :=
  if fitsInt64 i then some (.integer i) else none

/-- The sign before a number. -/
def readSign : List Char → Bool × List Char
  | '+' :: rest => (false, rest)
  | '-' :: rest => (true, rest)
  | cs => (false, cs)

/-- What follows a word, if it comes next. -/
def afterWord : List Char → List Char → Option (List Char)
  | [], cs => some cs
  | w :: word, c :: cs => if w = c then afterWord word cs else none
  | _ :: _, [] => none

/-- The fraction of a number, if a point comes next. -/
def readFraction : List Char → Option (List Nat × List Char)
  | '.' :: rest => someDigits 10 rest
  | cs => some ([], cs)

/-- The exponent of a number, if its mark comes next. -/
def readExponent : List Char → Option (Int × List Char)
  | c :: rest =>
      if c == 'e' || c == 'E' then do
        let (negative, rest) := readSign rest
        let (digits, rest) ← someDigits 10 rest
        let n : Int := digitsNumber 10 digits
        some (if negative then -n else n, rest)
      else some (0, c :: rest)
  | [] => some (0, [])

/-- A number to base ten. A double that rounds to positive infinity is refused,
one that rounds to negative infinity is not. -/
def readDecimal (cs : List Char) : Option (Toml × List Char) := do
  let (negative, cs) := readSign cs
  let (whole, afterWhole) ← wholeDigits cs
  let (fraction, afterFraction) ← readFraction afterWhole
  let (exponent, rest) ← readExponent afterFraction
  if rest.length = afterWhole.length then
    let n : Int := digitsNumber 10 whole
    some (← inRange (if negative then -n else n), rest)
  else
    let x := Double.ofDecimal negative (digitsNumber 10 (whole ++ fraction))
      (exponent - fraction.length)
    if x = .infinity false then none else some (.float x, rest)

/-- A number to another base, its mark being read. -/
def readBased (base : Nat) (cs : List Char) : Option (Toml × List Char) := do
  let (digits, rest) ← someDigits base cs
  some (← inRange (digitsNumber base digits), rest)

/-- Infinity or NaN, with or without a sign. -/
def readSpecial (cs : List Char) : Option (Toml × List Char) :=
  let (negative, cs) := readSign cs
  match afterWord ['i', 'n', 'f'] cs, afterWord ['n', 'a', 'n'] cs with
  | some rest, _ => some (.float (.infinity negative), rest)
  | none, some rest => some (.float .nan, rest)
  | none, none => none

/-! ## Dates and times -/

/-- Exactly `n` digits that write a number between two bounds. -/
def readPart (n least greatest : Nat) (cs : List Char) : Option (Nat × List Char) := do
  let digits ← (cs.take n).mapM (digitOf 10)
  let number := digitsNumber 10 digits
  if digits.length = n && least ≤ number && number ≤ greatest then some (number, cs.drop n)
  else none

def daysInMonth (year month : Nat) : Nat :=
  if month = 2 then if year % 4 = 0 && (year % 100 ≠ 0 || year % 400 = 0) then 29 else 28
  else if [4, 6, 9, 11].contains month then 30
  else 31

/-- What follows a date. -/
def afterDate (cs : List Char) : Option (List Char) := do
  let (year, cs) ← readPart 4 0 9999 cs
  let (month, cs) ← readPart 2 1 12 (← afterWord ['-'] cs)
  let (_, cs) ← readPart 2 1 (daysInMonth year month) (← afterWord ['-'] cs)
  some cs

/-- What follows the fraction of a second, if a point and digits come next. -/
def skipSecondFraction : List Char → List Char
  | '.' :: c :: rest => if c.isDigit then rest.dropWhile Char.isDigit else '.' :: c :: rest
  | cs => cs

/-- What follows a time of day. -/
def afterTime (cs : List Char) : Option (List Char) := do
  let (_, cs) ← readPart 2 0 23 cs
  let (_, cs) ← readPart 2 0 59 (← afterWord [':'] cs)
  let (_, cs) ← readPart 2 0 60 (← afterWord [':'] cs)
  some (skipSecondFraction cs)

/-- What follows the offset of a time, if one comes next. -/
def afterOffset : List Char → Option (List Char)
  | c :: rest =>
      if c == 'Z' || c == 'z' then some rest
      else if c == '+' || c == '-' then do
        let (_, cs) ← readPart 2 0 23 rest
        let (_, cs) ← readPart 2 0 59 (← afterWord [':'] cs)
        some cs
      else some (c :: rest)
  | [] => some []

/-- Whether a text begins with digits and a mark behind them. -/
def beginsWith (digits : Nat) (mark : Char) (cs : List Char) : Bool :=
  (cs.take digits).all Char.isDigit && (cs.drop digits).head? == some mark

/-- What follows a date that may have a time of day and an offset. A blank
between date and time begins a time only if its hour follows. -/
def afterMoment (cs : List Char) : Option (List Char) := do
  let cs ← afterDate cs
  match cs with
  | c :: rest =>
      if (c == 'T' || c == 't' || c == ' ') && beginsWith 2 ':' rest then
        afterOffset (← afterTime rest)
      else some cs
  | [] => some []

/-! ## All of them -/

/-- A number, a date or a time, told apart by what it begins with. -/
def readNumeral (cs : List Char) : Option (Toml × List Char) :=
  if beginsWith 4 '-' cs then do some (.moment, ← afterMoment cs)
  else if beginsWith 2 ':' cs then do some (.moment, ← afterTime cs)
  else
    match cs with
    | '0' :: 'x' :: rest => readBased 16 rest
    | '0' :: 'o' :: rest => readBased 8 rest
    | '0' :: 'b' :: rest => readBased 2 rest
    | cs =>
        match readSpecial cs with
        | some r => some r
        | none => readDecimal cs

end StartStep.Toml
