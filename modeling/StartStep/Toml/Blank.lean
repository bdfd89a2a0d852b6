/-!
# What stands between the parts of a TOML text

Blanks, line ends and comments. A comment may hold tabs and every printable
character, and so may strings; `isPlain` is that class.
-/

namespace StartStep.Toml

def isBlank (c : Char) : Bool := c == ' ' || c == '\t'

/-- Tabs and all characters but the control characters of ASCII. -/
def isPlain (c : Char) : Bool := c == '\t' || (0x20 ≤ c.toNat && c.toNat != 0x7F)

def skipBlanks (cs : List Char) : List Char := cs.dropWhile isBlank

/-- What follows a line end, if one comes next. -/
def afterNewLine : List Char → Option (List Char)
  | '\n' :: rest => some rest
  | '\r' :: '\n' :: rest => some rest
  | _ => none

/-- What follows a comment, if one comes next. -/
def skipComment : List Char → List Char
  | '#' :: rest => rest.dropWhile isPlain
  | cs => cs

/-- What follows the end of a line that may hold a comment still. -/
def afterLine (cs : List Char) : Option (List Char) :=
  match skipComment (skipBlanks cs) with
  | [] => some []
  | cs => afterNewLine cs

/-- What follows blanks and line ends. -/
def skipBlankLines : List Char → List Char
  | '\r' :: '\n' :: rest => skipBlankLines rest
  | c :: rest => if isBlank c || c == '\n' then skipBlankLines rest else c :: rest
  | [] => []

/-- What follows blanks, line ends and comments, each comment having to end
with its line. No step needs more than one unit of fuel per character. -/
def skipFiller : Nat → List Char → Option (List Char)
  | 0, _ => none
  | fuel + 1, cs =>
      match skipBlankLines cs with
      | '#' :: rest => do skipFiller fuel (← afterNewLine (rest.dropWhile isPlain))
      | cs => some cs

end StartStep.Toml
