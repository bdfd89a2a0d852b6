import StartStep.Text.Graphic
import StartStep.Text.Hexadecimal

/-!
# Quoted text

The detailed form of a value and the log lines show text between double
quotes. The quote and the backslash are escaped by a backslash, five control
characters have a letter or digit of their own, and every other character
that does not show itself is written by its number.
-/

namespace StartStep.Text

/-- A character inside quotes. -/
def quotedChar (c : Char) : List Char :=
  match c with
  | '\x00' => ['\\', '0']
  | '\t' => ['\\', 't']
  | '\n' => ['\\', 'n']
  | '\r' => ['\\', 'r']
  | '"' => ['\\', '"']
  | '\\' => ['\\', '\\']
  | c => if isGraphic c then [c] else '\\' :: 'u' :: '\x7b' :: hexDigits c.toNat ++ ['\x7d']

/-- Text between double quotes. -/
def quoted (s : String) : String :=
  String.ofList ('"' :: s.toList.flatMap quotedChar ++ ['"'])

/-- Items between brackets, separated by a comma and a space. -/
def bracketed (items : List String) : String := "[" ++ ", ".intercalate items ++ "]"

end StartStep.Text
