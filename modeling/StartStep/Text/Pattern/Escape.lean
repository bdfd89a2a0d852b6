import StartStep.Text.Blank
import StartStep.Text.Hexadecimal

/-!
# Patterns: modes and escapes

A pattern is a regular expression over text. Its readers only tell whether it
can be used: nothing is ever matched. No table of the properties of characters
stands behind them, so a mode in which one would be asked for what is written
refuses it: letters of either case, the classes of words, digits and blanks,
and the ends of words, as long as they are meant for all scripts. For ASCII
alone they are known, and there a byte that is no character is refused.
-/

namespace StartStep.Text.Pattern

/-- How what follows in a pattern is to be taken. -/
structure Mode where
  /-- Letters stand for both their cases. -/
  eitherCase : Bool
  /-- Classes and ends of words are those of all scripts, not of ASCII alone. -/
  allScripts : Bool
  /-- Blanks and comments are passed over. -/
  spaced : Bool
deriving DecidableEq

/-- The mode that a pattern begins in. -/
def Mode.initial : Mode := ⟨false, true, false⟩

/-- What follows blanks and comments, a comment running to the end of its line. -/
def skipSpace (inComment : Bool) : List Char → List Char
  | [] => []
  | c :: rest =>
      if inComment then skipSpace (c != '\n') rest
      else if isBlank c then skipSpace false rest
      else if c == '#' then skipSpace true rest
      else c :: rest

/-- What follows what a mode passes over. -/
def Mode.skip (m : Mode) (cs : List Char) : List Char := if m.spaced then skipSpace false cs else cs

/-- The next character that is neither a blank nor the sign of a comment. -/
def afterSpace (inComment : Bool) : List Char → Option Char
  | [] => none
  | c :: rest =>
      if isBlank c then afterSpace inComment rest
      else if !inComment && c == '#' then afterSpace true rest
      else some c

/-- The next character in a mode. -/
def Mode.peek (m : Mode) (cs : List Char) : Option Char :=
  if m.spaced then afterSpace false cs else cs.head?

/-! ## What is usable in a mode -/

/-- A character that stands for itself; `byte` says that two digits wrote it,
which name a byte where only ASCII is meant. -/
def Mode.admitsLiteral (m : Mode) (c : Char) (byte : Bool) : Bool :=
  if m.allScripts then !m.eitherCase else !byte || c.toNat < 0x80

/-- A character as a member of a class. -/
def Mode.admitsMember (m : Mode) (c : Char) : Bool :=
  if m.allScripts then !m.eitherCase else c.toNat < 0x80

/-- The class of words, digits or blanks. -/
def Mode.admitsWordClass (m : Mode) (negated : Bool) : Bool := !m.allScripts && !negated

/-- A class of ASCII characters by its name. -/
def Mode.admitsNamedClass (m : Mode) (negated : Bool) : Bool :=
  if m.allScripts then !m.eitherCase else !negated

/-- A class in brackets, its members apart. -/
def Mode.admitsBrackets (m : Mode) (negated : Bool) : Bool := m.allScripts || !negated

/-! ## Escapes -/

/-- What a backslash and what belongs to it stand for. -/
inductive Escape
  | literal (c : Char) (byte : Bool)
  | wordClass (negated : Bool)
  /-- The beginning or end of a word, or a place that is neither. -/
  | wordEdge
  /-- The beginning or end of the text. -/
  | textEdge
deriving DecidableEq

/-- The number written by the next digits, the spaces between them passed over. -/
def readDigits (m : Mode) : Nat → Nat → List Char → Option (Nat × List Char)
  | 0, n, cs => some (n, m.skip cs)
  | count + 1, n, cs =>
      match m.skip cs with
      | [] => none
      | c :: rest => do readDigits m count (n * 16 + (← hexValue c)) rest

/-- A character by its number. -/
def readNumbered (m : Mode) (count : Nat) (byte : Bool) (cs : List Char) :
    Option (Escape × List Char) := do
  let (n, rest) ← readDigits m count 0 cs
  if n.isValidChar then some (.literal (Char.ofNat n) byte, rest) else none

/-- An escape from behind its backslash. The properties of characters and the
groups of a pattern cannot be asked for. -/
def readEscape (m : Mode) : List Char → Option (Escape × List Char)
  | [] => none
  | 'x' :: rest => readNumbered m 2 true rest
  | 'u' :: rest => readNumbered m 4 false rest
  | 'U' :: rest => readNumbered m 8 false rest
  | c :: rest =>
      if ['d', 's', 'w'].contains c then some (.wordClass false, rest)
      else if ['D', 'S', 'W'].contains c then some (.wordClass true, rest)
      else if ['b', 'B', '<', '>'].contains c then some (.wordEdge, rest)
      else if ['A', 'z'].contains c then some (.textEdge, rest)
      else
        match c with
        | 'a' => some (.literal '\x07' false, rest)
        | 't' => some (.literal '\t' false, rest)
        | 'n' => some (.literal '\n' false, rest)
        | 'v' => some (.literal '\x0b' false, rest)
        | 'f' => some (.literal '\x0c' false, rest)
        | 'r' => some (.literal '\r' false, rest)
        | c =>
            if c.toNat < 0x80 && !c.isAlphanum then some (.literal c false, rest) else none

end StartStep.Text.Pattern
