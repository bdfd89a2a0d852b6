import StartStep.CommandLine.UsageFault
import StartStep.Element

/-!
# Values of options
-/

namespace StartStep.CommandLine

inductive OutputFormat
  | text
  | json
deriving DecidableEq

/-- Whether colours may be used, which they never are off a terminal. -/
inductive Theme
  | auto
  | plain
deriving DecidableEq

def OutputFormat.ofText : String → Option OutputFormat
  | "text" => some .text
  | "json" => some .json
  | _ => none

def Theme.ofText : String → Option Theme
  | "auto" => some .auto
  | "plain" => some .plain
  | _ => none

/-- The number that digits behind a given number write, or what is wrong with
the first digit that does not fit. -/
def naturalFrom : Nat → List Char → Except String Nat
  | n, [] => .ok n
  | n, c :: rest =>
      if !c.isDigit then .error "invalid digit found in string"
      else
        let n := n * 10 + (c.toNat - '0'.toNat)
        if 0xFFFFFFFFFFFFFFFF < n then .error "number too large to fit in target type"
        else naturalFrom n rest

/-- An identifier in decimal digits, a plus sign before it being allowed. -/
def parseId (s : String) : Except String ElementId :=
  match s.toList with
  | [] => .error "cannot parse integer from empty string"
  | '+' :: c :: rest => UInt64.ofNat <$> naturalFrom 0 (c :: rest)
  | cs => UInt64.ofNat <$> naturalFrom 0 cs

/-- One of the choices of an option; the empty text is no value. -/
def parseChoice {α : Type} (s : Switch) (ofText : String → Option α) (value : String) :
    Except UsageFault α :=
  match ofText value with
  | some a => .ok a
  | none => .error (if value = "" then .valueMissing s else .unknownChoice s value)

/-- The path of a file; the empty text is no value. -/
def parsePath (s : Switch) (value : String) : Except UsageFault String :=
  if value = "" then .error (.valueMissing s) else .ok value

/-- A value read by a parser of its own. -/
def parseWith {α : Type} (s : Switch) (parse : String → Except String α) (value : String) :
    Except UsageFault α :=
  (parse value).mapError (.badValue s value)

end StartStep.CommandLine
