/-!
# Blanks

The characters of every script that only keep others apart.
-/

namespace StartStep.Text

/-- Spaces, tabs and what ends a line, a paragraph or a page. -/
def isBlank (c : Char) : Bool :=
  let n := c.toNat
  (0x9 ≤ n && n ≤ 0xD) || n == 0x20 || n == 0x85 || n == 0xA0 || n == 0x1680 ||
    (0x2000 ≤ n && n ≤ 0x200A) || n == 0x2028 || n == 0x2029 || n == 0x202F || n == 0x205F ||
    n == 0x3000

/-- What is left without the blanks at both ends. -/
def trimmed (cs : List Char) : List Char :=
  ((cs.dropWhile isBlank).reverse.dropWhile isBlank).reverse

end StartStep.Text
