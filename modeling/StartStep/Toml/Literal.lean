import StartStep.Toml.Blank
import StartStep.Text.Hexadecimal

/-!
# TOML strings

A string stands between double quotes, in which a backslash escapes, or
between single quotes, in which nothing does. Between three quotes of either
sort a string may run over several lines; a line end right behind the opening
quotes is not part of it, and every line end counts as a line feed.
-/

namespace StartStep.Toml

/-- The character whose number is written by the next `n` digits. -/
def readScalar (n : Nat) (cs : List Char) : Option (Char × List Char) := do
  let digits := cs.take n
  let number ← Text.hexNumber digits
  if digits.length = n && number.isValidChar then some (Char.ofNat number, cs.drop n) else none

/-- The character of an escape, its backslash being read. -/
def readEscape : List Char → Option (Char × List Char)
  | 'b' :: rest => some ('\x08', rest)
  | 'f' :: rest => some ('\x0c', rest)
  | 'n' :: rest => some ('\n', rest)
  | 'r' :: rest => some ('\r', rest)
  | 't' :: rest => some ('\t', rest)
  | '"' :: rest => some ('"', rest)
  | '\\' :: rest => some ('\\', rest)
  | 'u' :: rest => readScalar 4 rest
  | 'U' :: rest => readScalar 8 rest
  | _ => none

/-- Puts a character in front of what was read. -/
def behind (c : Char) (p : List Char × List Char) : List Char × List Char := (c :: p.1, p.2)

/-- The rest of a string on one line, and what follows it. -/
def readShort (quote : Char) : Nat → List Char → Option (List Char × List Char)
  | 0, _ => none
  | _ + 1, [] => none
  | fuel + 1, c :: rest =>
      if c = quote then some ([], rest)
      else if c = '\\' && quote = '"' then do
        let (c, rest) ← readEscape rest
        behind c <$> readShort quote fuel rest
      else if isPlain c then behind c <$> readShort quote fuel rest
      else none

/-- What follows a backslash at the end of a line, and the blanks and line ends
it swallows. -/
def afterContinuation (cs : List Char) : Option (List Char) :=
  skipBlankLines <$> afterNewLine (skipBlanks cs)

/-- The closing quotes of a long string; up to two quotes before the last three
are still part of it. -/
def closeLong (quote : Char) (rest : List Char) : List Char × List Char :=
  let extra := min 2 (rest.takeWhile (· == quote)).length
  (List.replicate extra quote, rest.drop extra)

/-- The rest of a string over several lines, and what follows it. -/
def readLong (quote : Char) : Nat → List Char → Option (List Char × List Char)
  | 0, _ => none
  | fuel + 1, cs =>
      match afterNewLine cs with
      | some rest => behind '\n' <$> readLong quote fuel rest
      | none =>
          if cs.take 3 = [quote, quote, quote] then some (closeLong quote (cs.drop 3))
          else
            match cs with
            | [] => none
            | c :: rest =>
                if c = '\\' && quote = '"' then
                  match afterContinuation rest with
                  | some rest => readLong quote fuel rest
                  | none => do
                      let (c, rest) ← readEscape rest
                      behind c <$> readLong quote fuel rest
                else if isPlain c then behind c <$> readLong quote fuel rest
                else none

/-- A string on one line, its opening quote being read. -/
def shortString (quote : Char) (cs : List Char) : Option (String × List Char) := do
  let (content, rest) ← readShort quote (cs.length + 1) cs
  some (String.ofList content, rest)

/-- A string, its first quote being read. -/
def anyString (quote : Char) (cs : List Char) : Option (String × List Char) :=
  if cs.take 2 = [quote, quote] then do
    let cs := cs.drop 2
    let cs := (afterNewLine cs).getD cs
    let (content, rest) ← readLong quote (cs.length + 1) cs
    some (String.ofList content, rest)
  else shortString quote cs

end StartStep.Toml
