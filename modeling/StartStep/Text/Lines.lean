/-!
# Texts and their lines

A text of lines ends each of them with a line feed. It is cut where its line feeds
are, and what is left behind the last one is a line if there is anything.
-/

namespace StartStep.Text

/-- The text that has the given lines. -/
def ofLines (lines : List String) : String := String.join (lines.map (· ++ "\n"))

/-- The line of which the characters are given from the last to the first, a
carriage return at its end being left out. -/
def lineOfReversed : List Char → String
  | '\r' :: rest => String.ofList rest.reverse
  | cs => String.ofList cs.reverse

/-- The lines of a text, the characters of the first one read so far being
given from the last to the first. -/
def linesFrom (reversed : List Char) : List Char → List String
  | [] => if reversed.isEmpty then [] else [String.ofList reversed.reverse]
  | '\n' :: rest => lineOfReversed reversed :: linesFrom [] rest
  | c :: rest => linesFrom (c :: reversed) rest

/-- The lines of a text. A line ends with a line feed, and a carriage return
right before that belongs to the line end. -/
def toLines (s : String) : List String := linesFrom [] s.toList

end StartStep.Text
