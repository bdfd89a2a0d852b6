/-!
# Text for an output that is no terminal

A terminal is steered by control characters and by sequences that begin with
the escape character. An output that is no terminal is given a text without
them: the characters that show themselves, spaces and line ends are left.

A sequence may be cut short by a blank that cannot be part of it. The blank is
shown, and so is what follows, up to the next control character; only there
the sequence goes on where it was left.
-/

namespace StartStep.Text.Terminal

/-- Where a text is in a sequence. -/
inductive Place
  /-- Outside of any. -/
  | ground
  /-- Behind the escape character. -/
  | escape
  /-- In an escape sequence of more than one character. -/
  | intermediate
  /-- In a control sequence, which a letter ends. -/
  | control
  /-- At the head of a device's data, and behind the parts of that head. -/
  | device
  | deviceParameter
  | deviceIntermediate
  /-- In data, up to an escape character or a byte that ends strings. -/
  | data
  /-- In a command to the system, up to an escape character or a bell. -/
  | command
deriving DecidableEq

namespace Place

/-- Whether a character lies between two code points, both included. -/
def within (least greatest : Nat) (c : Char) : Bool := least ≤ c.toNat && c.toNat ≤ greatest

/-- The byte that ends data, wherever in a character it stands. -/
def stringEnd : UInt8 := 0x9C

/-- The place behind a character that is not shown. -/
def next (p : Place) (c : Char) : Place :=
  if c == '\x1b' then .escape
  else if c == '\x18' || c == '\x1a' then .ground
  else
    match p with
    | .ground => .ground
    | .escape =>
        if within 0x20 0x2F c then .intermediate
        else if c == '[' then .control
        else if c == ']' then .command
        else if c == 'P' then .device
        else if c == 'X' || c == '^' || c == '_' then .data
        else if within 0x30 0x7E c then .ground
        else .escape
    | .intermediate => if within 0x30 0x7E c then .ground else .intermediate
    | .control => if within 0x40 0x7E c then .ground else .control
    | .device =>
        if within 0x20 0x2F c then .deviceIntermediate
        else if within 0x30 0x3F c then .deviceParameter
        else if within 0x40 0x7E c then .data
        else .device
    | .deviceParameter =>
        if within 0x20 0x2F c then .deviceIntermediate
        else if within 0x3C 0x7E c then .data
        else .deviceParameter
    | .deviceIntermediate => if within 0x30 0x7E c then .data else .deviceIntermediate
    | .data => if (String.utf8EncodeChar c).contains stringEnd then .ground else .data
    | .command => if c == '\x07' then .ground else .command

/-- Tabs and line ends, which no sequence holds. -/
def isLayout (c : Char) : Bool := c == '\t' || c == '\n' || c == '\x0c' || c == '\r'

/-- Whether a character is shown at a place. -/
def shows (p : Place) (c : Char) : Bool :=
  match p with
  | .ground => isLayout c || (0x20 ≤ c.toNat && c != '\x7f')
  | .escape | .intermediate | .control => isLayout c
  | _ => false

end Place

/-- What is shown of a text from a place on; `showing` says that what came just
before was shown. -/
def shownFrom (p : Place) (showing : Bool) : List Char → List Char
  | [] => []
  | c :: rest =>
      if (if showing then Place.ground else p).shows c then
        c :: shownFrom (if c.toNat < 0x80 then p else .ground) true rest
      else shownFrom (p.next c) false rest

/-- What is shown of a text. -/
def shown (s : String) : String := String.ofList (shownFrom .ground false s.toList)

end StartStep.Text.Terminal
