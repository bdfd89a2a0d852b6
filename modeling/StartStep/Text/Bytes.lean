/-!
# Text by the byte

A text takes a byte for each ASCII character in UTF-8 and up to four for
others. Where places in a text are counted in bytes, not every place lies
between two characters, and a cut can be made only where one does.
-/

namespace StartStep.Text

/-- How many bytes a text takes. -/
def byteLength (cs : List Char) : Nat := cs.foldl (fun n c => n + c.utf8Size) 0

/-- What follows the first `n` bytes, if they end with a character. -/
def dropBytes : Nat → List Char → Option (List Char)
  | 0, cs => some cs
  | _ + 1, [] => none
  | n + 1, c :: cs => if c.utf8Size ≤ n + 1 then dropBytes (n + 1 - c.utf8Size) cs else none

/-- The first `n` bytes, if they end with a character. -/
def takeBytes : Nat → List Char → Option (List Char)
  | 0, _ => some []
  | _ + 1, [] => none
  | n + 1, c :: cs =>
      if c.utf8Size ≤ n + 1 then (c :: ·) <$> takeBytes (n + 1 - c.utf8Size) cs else none

/-- The text between two places counted in bytes. -/
def sliceBytes (start stop : Nat) (cs : List Char) : Option (List Char) := do
  takeBytes (stop - start) (← dropBytes start cs)

end StartStep.Text
