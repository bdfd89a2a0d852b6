import StartStep.Event
import StartStep.Text.Blank
import StartStep.Text.Bytes
import StartStep.Text.Pattern

/-!
# Which log records are let through

A filter is a list of directives between commas. A directive names a level,
the origins it is about by what they begin with, or both as `origin=level`;
in brackets it may ask for a span of work, of which there are none, or for
fields. Of the directives that are about a record, the most specific one
decides: the longest origin, then the most fields.
-/

namespace StartStep.CommandLine

structure LogDirective where
  /-- What the origin begins with. -/
  origin : Option String
  /-- Whether it is about what happens in a span. -/
  inSpan : Bool
  /-- The fields asked for, and whether for a value of them too. -/
  fields : List (String × Bool)
  verbosity : Nat
deriving DecidableEq

namespace LogDirective

/-! ## Reading -/

/-- A count in decimal digits, a plus sign before it being allowed. -/
def readCount (cs : List Char) : Option Nat :=
  let digits := match cs with
    | '+' :: rest => rest
    | cs => cs
  if digits.isEmpty || !digits.all Char.isDigit then none
  else some (digits.foldl (fun n c => n * 10 + (c.toNat - '0'.toNat)) 0)

/-- The verbosity that a level's name or number stands for. -/
def readVerbosity (cs : List Char) : Option Nat :=
  match readCount cs with
  | some n => if n ≤ 5 then some n else none
  | none =>
      ["off", "error", "warn", "info", "debug", "trace"].idxOf? (String.ofList cs).toLower

/-- The verbosity behind the equals sign; nothing there means everything. -/
def readLevel (cs : List Char) : Option Nat := if cs.isEmpty then some 5 else readVerbosity cs

/-- What may begin a directive that begins with no bracket. -/
def isFirstChar (c : Char) : Bool :=
  c == '-' || c == ':' || c == '_' || Text.isAlphanumeric c

/-- What follows a sign, if one comes first. -/
def afterSign : List Char → List Char
  | '+' :: rest => rest
  | '-' :: rest => rest
  | cs => cs

/-- Digits with a point among them or not, and an exponent or none. -/
def isDecimal (cs : List Char) : Bool :=
  let whole := cs.takeWhile Char.isDigit
  let (part, rest) := match cs.drop whole.length with
    | '.' :: rest => (rest.takeWhile Char.isDigit, rest.dropWhile Char.isDigit)
    | rest => ([], rest)
  !(whole.isEmpty && part.isEmpty) &&
    match rest with
    | [] => true
    | e :: rest =>
        let exponent := afterSign rest
        (e == 'e' || e == 'E') && !exponent.isEmpty && exponent.all Char.isDigit

/-- Whether a text writes a number: a decimal, an infinity or no number at all. -/
def isNumber (cs : List Char) : Bool :=
  let size := afterSign cs
  isDecimal size || ["inf", "infinity", "nan"].contains (String.ofList size).toLower

/-- A field, and whether a value of it is asked for: a number or a pattern,
which ends where another value begins. -/
def readField (cs : List Char) : Option (String × Bool) :=
  if cs.isEmpty then none
  else
    let name := cs.takeWhile (· != '=')
    match cs.drop name.length with
    | [] => some (String.ofList name, false)
    | _ :: rest =>
        let value := rest.takeWhile (· != '=')
        if isNumber value || Text.Pattern.isUsable value then some (String.ofList name, true)
        else none

/-! A directive may stand between blanks. Its parts are found in what is left
without them, and their places, counted in bytes, are then taken for places in
the whole: behind a blank each part is cut out too early. `whole` is the text
with its blanks, `place` is where `cs` begins in the text without them. -/

/-- The level of a directive, from behind its equals sign. -/
def readLevelAt (whole : List Char) (place : Nat) (d : LogDirective) : Option LogDirective := do
  some { d with verbosity := ← readLevel (← Text.dropBytes place whole) }

/-- The rest of a directive behind its brackets. -/
def readAfterBrackets (whole : List Char) (place : Nat) (d : LogDirective) :
    List Char → Option LogDirective
  | [] => some d
  | '=' :: _ => readLevelAt whole (place + 1) d
  | _ => none

/-- The rest of a directive from behind its opening bracket. -/
def readBrackets (whole : List Char) (place : Nat) (origin : Option String) (cs : List Char) :
    Option LogDirective := do
  let span := cs.takeWhile fun c => c != ']' && c != '\x7b'
  let behind := place + Text.byteLength span + 1
  let _ ← Text.sliceBytes place (behind - 1) whole
  match cs.drop span.length with
  | ']' :: rest => readAfterBrackets whole behind ⟨origin, true, [], 5⟩ rest
  | '\x7b' :: rest =>
      let field := rest.takeWhile (· != '\x7d')
      let fieldEnd := behind + Text.byteLength field
      match rest.drop field.length with
      | '\x7d' :: ']' :: rest => do
          let field ← readField (← Text.sliceBytes behind fieldEnd whole)
          readAfterBrackets whole (fieldEnd + 2) ⟨origin, !span.isEmpty, [field], 5⟩ rest
      | _ => none
  | _ => none

/-- One directive: a level if it is one, and else the origin it is about. -/
def readWhole (whole : List Char) : LogDirective :=
  match readVerbosity whole with
  | some verbosity => ⟨none, false, [], verbosity⟩
  | none => ⟨some (String.ofList whole), false, [], 5⟩

/-- One directive. -/
def read (whole : List Char) : Option LogDirective :=
  let cs := Text.trimmed whole
  match cs with
  | [] => none
  | '[' :: rest => readBrackets whole 1 none rest
  | c :: _ =>
      if !isFirstChar c then none
      else
        let word := cs.takeWhile fun c => c != '=' && c != '['
        let place := Text.byteLength word
        match cs.drop word.length with
        | '=' :: _ => do
            let origin ← Text.sliceBytes 0 place whole
            readLevelAt whole (place + 1) ⟨some (String.ofList origin), false, [], 5⟩
        | '[' :: rest => do
            let origin ← Text.sliceBytes 0 place whole
            readBrackets whole (place + 1) (some (String.ofList origin)) rest
        | _ => some (readWhole whole)

/-! ## Deciding -/

/-- Whether it can be about a record at all: not if it asks for a span or for
a field's value. -/
def isStatic (d : LogDirective) : Bool := !d.inSpan && d.fields.all fun f => !f.2

/-- Whether it is about a record. -/
def concerns (d : LogDirective) (e : Event) : Bool :=
  let names := "message" :: e.fields.map (·.1)
  (d.origin.all fun o => e.origin.startsWith o) && d.fields.all fun f => names.contains f.1

/-- Of two directives about one record, which is the more specific. -/
def specificity (a b : LogDirective) : Ordering :=
  (compare (a.origin.map String.length) (b.origin.map String.length)).then <|
    (compare a.fields.length b.fields.length).then <|
      compare (a.fields.map (·.1)) (b.fields.map (·.1))

/-- The more specific of two directives, and of equally specific ones the second. -/
def moreSpecific (a b : LogDirective) : LogDirective := if specificity a b = .gt then a else b

end LogDirective

structure LogFilter where
  directives : List LogDirective
deriving DecidableEq

namespace LogFilter

/-- Lets through what is at least as severe as a level. -/
def upTo (level : LogLevel) : LogFilter := ⟨[⟨none, false, [], level.verbosity⟩]⟩

/-- The filter a text writes; one without directives lets errors through. -/
def parse (s : String) : Option LogFilter := do
  let texts := ((s.splitOn ",").map String.toList).filter fun cs => !cs.isEmpty
  let directives ← texts.mapM LogDirective.read
  some (if directives.isEmpty then upTo .error else ⟨directives⟩)

/-- The filter a setting asks for: warnings, if it is absent or cannot be read. -/
def ofSetting (setting : Option String) : LogFilter := (setting.bind parse).getD (upTo .warn)

/-- Whether a record is let through. -/
def admits (f : LogFilter) (e : Event) : Bool :=
  match f.directives.filter fun d => d.isStatic && d.concerns e with
  | [] => false
  | d :: rest => e.level.verbosity ≤ (rest.foldl LogDirective.moreSpecific d).verbosity

end LogFilter

end StartStep.CommandLine
