import StartStep.Toml.Assembly
import StartStep.Toml.Literal
import StartStep.Toml.Numeral

/-!
# Reading TOML

A text is first read into statements, and these are put together. Nothing is
told about a text that is no document but that it is none.
-/

namespace StartStep.Toml

/-- How many arrays and tables may stand inside one another in a value, and how
many keys a dotted key may have. -/
def deepest : Nat := 79

/-! ## Keys -/

def isBareKeyChar (c : Char) : Bool := c.isAlphanum || c == '-' || c == '_'

/-- One key: a string on one line, or a bare word. -/
def readSimpleKey : List Char → Option (String × List Char)
  | '"' :: rest => shortString '"' rest
  | '\'' :: rest => shortString '\'' rest
  | cs =>
      let word := cs.takeWhile isBareKeyChar
      if word.isEmpty then none else some (String.ofList word, cs.dropWhile isBareKeyChar)

/-- Keys with points between them: all but the last, the last, and what follows. -/
def readKeys : Nat → List Char → Option (List String × String × List Char)
  | 0, _ => none
  | room + 1, cs => do
      let (key, rest) ← readSimpleKey (skipBlanks cs)
      match skipBlanks rest with
      | '.' :: rest =>
          let (path, last, rest) ← readKeys room rest
          some (key :: path, last, rest)
      | rest => some ([], key, rest)

/-! ## Values -/

mutual

/-- A value and what follows it; `room` arrays and tables may be opened inside
one another. -/
def readValue : Nat → Nat → List Char → Option (Toml × List Char)
  | 0, _, _ => none
  | _, _, [] => none
  | fuel + 1, room, c :: rest =>
      match c with
      | '"' => (fun p => (.string p.1, p.2)) <$> anyString '"' rest
      | '\'' => (fun p => (.string p.1, p.2)) <$> anyString '\'' rest
      | '[' =>
          match room with
          | 0 => none
          | room + 1 => (fun p => (.array p.1, p.2)) <$> readItems fuel room rest
      | '\x7b' =>
          match room with
          | 0 => none
          | room + 1 => do
              let (assignments, rest) ← readAssignments fuel room true rest
              some (← inlineTable assignments, rest)
      | 't' => (fun rest => (.boolean true, rest)) <$> afterWord ['r', 'u', 'e'] rest
      | 'f' => (fun rest => (.boolean false, rest)) <$> afterWord ['a', 'l', 's', 'e'] rest
      | c => readNumeral (c :: rest)

/-- The items of an array up to its bracket. -/
def readItems : Nat → Nat → List Char → Option (List Toml × List Char)
  | 0, _, _ => none
  | fuel + 1, room, cs => do
      match ← skipFiller (cs.length + 1) cs with
      | ']' :: rest => some ([], rest)
      | cs =>
          let (v, rest) ← readValue fuel room cs
          match ← skipFiller (rest.length + 1) rest with
          | ']' :: rest => some ([v], rest)
          | ',' :: rest =>
              let (more, rest) ← readItems fuel room rest
              some (v :: more, rest)
          | _ => none

/-- The assignments between braces up to the closing one. -/
def readAssignments : Nat → Nat → Bool → List Char →
    Option (List (List String × String × Toml) × List Char)
  | 0, _, _, _ => none
  | fuel + 1, room, first, cs =>
      match first, skipBlanks cs with
      | true, '\x7d' :: rest => some ([], rest)
      | _, cs => do
          let (path, key, rest) ← readKeys deepest cs
          let rest ← afterWord ['='] rest
          let (v, rest) ← readValue fuel room (skipBlanks rest)
          match skipBlanks rest with
          | '\x7d' :: rest => some ([(path, key, v)], rest)
          | ',' :: rest =>
              let (more, rest) ← readAssignments fuel room false rest
              some ((path, key, v) :: more, rest)
          | _ => none

end

/-! ## Statements -/

/-- A statement, and what follows its line. -/
def readStatement (cs : List Char) : Option (Statement × List Char) :=
  match cs with
  | '[' :: '[' :: rest => do
      let (path, key, rest) ← readKeys deepest rest
      some (.arrayHeader path key, ← afterLine (← afterWord [']', ']'] rest))
  | '[' :: rest => do
      let (path, key, rest) ← readKeys deepest rest
      some (.header path key, ← afterLine (← afterWord [']'] rest))
  | cs => do
      let (path, key, rest) ← readKeys deepest cs
      let rest ← afterWord ['='] rest
      let (v, rest) ← readValue (3 * cs.length) deepest (skipBlanks rest)
      some (.assignment path key v, ← afterLine rest)

/-- The statements of a text. No step needs more than one unit of fuel per
character. -/
def readStatements : Nat → List Char → Option (List Statement)
  | 0, _ => none
  | fuel + 1, cs =>
      match skipBlanks cs with
      | [] => some []
      | '#' :: rest => do readStatements fuel (← afterLine ('#' :: rest))
      | cs =>
          match afterNewLine cs with
          | some rest => readStatements fuel rest
          | none => do
              let (s, rest) ← readStatement cs
              let more ← readStatements fuel rest
              some (s :: more)

/-- The document a text holds. A byte order mark before it is passed over. -/
def parse (s : String) : Option Toml := do
  let cs := match s.toList with
    | '\uFEFF' :: rest => rest
    | cs => cs
  assemble [] [] (← readStatements (cs.length + 1) cs)

end StartStep.Toml
