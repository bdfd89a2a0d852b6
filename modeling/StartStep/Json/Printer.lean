import StartStep.Json
import StartStep.Text.Quoted

/-!
# Writing JSON

The compact text has no blanks. The indented text puts every item and field
on a line of its own, two blanks deeper than what holds it; empty arrays and
objects stay on one line.
-/

namespace StartStep.Json

/-- A character inside a string: quote, backslash and control characters are escaped. -/
def escapedChar (c : Char) : List Char :=
  match c with
  | '"' => ['\\', '"']
  | '\\' => ['\\', '\\']
  | '\x08' => ['\\', 'b']
  | '\x0c' => ['\\', 'f']
  | '\n' => ['\\', 'n']
  | '\r' => ['\\', 'r']
  | '\t' => ['\\', 't']
  | c =>
      if c.toNat < 0x20 then
        ['\\', 'u', '0', '0', Nat.digitChar (c.toNat / 16), Nat.digitChar (c.toNat % 16)]
      else [c]

/-- A string between quotes. -/
def stringChars (s : String) : List Char := '"' :: s.toList.flatMap escapedChar ++ ['"']

def Number.chars : Number → List Char
  | .integer (.ofNat n) => Nat.toDigits 10 n
  | .integer (.negSucc n) => '-' :: Nat.toDigits 10 (n + 1)
  | .float x => (Double.write Double.json x).toList

mutual

/-- The compact text of a document. -/
def chars : Json → List Char
  | .null => ['n', 'u', 'l', 'l']
  | .bool true => ['t', 'r', 'u', 'e']
  | .bool false => ['f', 'a', 'l', 's', 'e']
  | .number n => n.chars
  | .string s => stringChars s
  | .array [] => ['[', ']']
  | .array (j :: rest) => '[' :: chars j ++ moreItems rest
  | .object [] => ['\x7b', '\x7d']
  | .object ((key, j) :: rest) => '\x7b' :: stringChars key ++ ':' :: chars j ++ moreFields rest

/-- The items after the first, and the closing bracket. -/
def moreItems : List Json → List Char
  | [] => [']']
  | j :: rest => ',' :: chars j ++ moreItems rest

/-- The fields after the first, and the closing brace. -/
def moreFields : List (String × Json) → List Char
  | [] => ['\x7d']
  | (key, j) :: rest => ',' :: stringChars key ++ ':' :: chars j ++ moreFields rest

end

/-- The compact text of a document. -/
def compact (j : Json) : String := String.ofList j.chars

/-- A new line, indented to a depth. -/
def newLine (depth : Nat) : List Char := '\n' :: List.replicate (2 * depth) ' '

mutual

/-- The indented text of a document that stands at a depth. -/
def indentedChars (depth : Nat) : Json → List Char
  | .array [] => ['[', ']']
  | .array (j :: rest) =>
      '[' :: newLine (depth + 1) ++ indentedChars (depth + 1) j ++ moreIndentedItems depth rest
  | .object [] => ['\x7b', '\x7d']
  | .object ((key, j) :: rest) =>
      '\x7b' :: newLine (depth + 1) ++ stringChars key ++ ':' :: ' ' ::
        indentedChars (depth + 1) j ++ moreIndentedFields depth rest
  | j => chars j

def moreIndentedItems (depth : Nat) : List Json → List Char
  | [] => newLine depth ++ [']']
  | j :: rest =>
      ',' :: newLine (depth + 1) ++ indentedChars (depth + 1) j ++ moreIndentedItems depth rest

def moreIndentedFields (depth : Nat) : List (String × Json) → List Char
  | [] => newLine depth ++ ['\x7d']
  | (key, j) :: rest =>
      ',' :: newLine (depth + 1) ++ stringChars key ++ ':' :: ' ' ::
        indentedChars (depth + 1) j ++ moreIndentedFields depth rest

end

/-- The indented text of a document. -/
def indented (j : Json) : String := String.ofList (indentedChars 0 j)

end StartStep.Json
