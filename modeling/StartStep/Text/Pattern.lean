import StartStep.Text.Alphanumeric
import StartStep.Text.Pattern.Class

/-!
# Patterns

A pattern is a choice between rows of parts, set apart by bars. A part is a
character, an escape, a class in brackets, a group in parentheses or the
repetition of a part; a group may also do nothing but set the mode of what
follows it in the group around it. A repetition by a count is in braces, and
where patterns are written here braces cannot be: an opening one is refused.

A pattern can be used if it is well formed, if each of its parts can be used in
the mode it stands in, and if its parts do not lie too deep inside one another.
-/

namespace StartStep.Text.Pattern

/-- How deep the parts of a pattern may lie inside one another. -/
def deepest : Nat := 250

/-! ## The head of a group -/

/-- What a parenthesis opens. -/
inductive Opened
  /-- Nothing: the mode of what follows is set. -/
  | mode (m : Mode)
  | group (m : Mode) (name : Option String)
deriving DecidableEq

/-- A mode changed by a letter. -/
def Mode.set (m : Mode) (flag : Char) (value : Bool) : Mode :=
  match flag with
  | 'i' => { m with eitherCase := value }
  | 'u' => { m with allScripts := value }
  | 'x' => { m with spaced := value }
  | _ => m

/-- The letters that change a mode. Some change only how a text is matched. -/
def flags : List Char := ['i', 'm', 's', 'U', 'u', 'R', 'x']

/-- The letters between a question mark and a colon or parenthesis. Those behind
a hyphen are taken back; none may stand twice, and the hyphen not at the end. -/
def readFlags (before : List Char) (m : Mode) : List Char → Option (Opened × List Char)
  | [] => none
  | c :: rest =>
      if c == ':' then
        if before.head? = some '-' then none else some (.group m none, rest)
      else if c == ')' then
        if before.head? = some '-' || before.isEmpty then none else some (.mode m, rest)
      else if before.contains c then none
      else if c == '-' then readFlags (c :: before) m rest
      else if flags.contains c then
        readFlags (c :: before) (m.set c (!before.contains '-')) rest
      else none

/-- Whether characters are the name of a group. -/
def isGroupName : List Char → Bool
  | [] => false
  | c :: rest =>
      (c == '_' || isLetter c) &&
        rest.all fun c => c == '_' || c == '.' || c == '[' || c == ']' || isAlphanumeric c

/-- The name of a group up to its angle bracket. -/
def readGroupName (m : Mode) (cs : List Char) : Option (Opened × List Char) :=
  let name := cs.takeWhile (· != '>')
  match cs.drop name.length with
  | [] => none
  | _ :: rest =>
      if isGroupName name then some (.group m (some (String.ofList name)), rest) else none

/-- What a parenthesis opens, from behind it. A group cannot look ahead or behind. -/
def readOpened (m : Mode) (cs : List Char) : Option (Opened × List Char) :=
  match m.skip cs with
  | '?' :: 'P' :: '<' :: rest => readGroupName m rest
  | '?' :: '<' :: rest => readGroupName m rest
  | '?' :: rest => readFlags [] m rest
  | cs => some (.group m none, cs)

/-! ## Rows of parts -/

/-- A group whose end has not been read, or the whole pattern. -/
structure Open where
  mode : Mode
  row : Row
  /-- How high the last part of the row is, if it can be repeated. -/
  last : Option Nat
  /-- How high the rows before the last bar are. -/
  rows : Option Nat
deriving DecidableEq

namespace Open

def start (m : Mode) : Open := ⟨m, .empty, none, none⟩

/-- One more part, which can be repeated. -/
def push (g : Open) (height : Nat) : Open :=
  { g with row := g.row.push height, last := some height }

/-- Another mode from here on, which counts as a part. -/
def setMode (g : Open) (m : Mode) : Open :=
  { g with mode := m, row := g.row.push 0, last := none }

/-- The last part repeated. -/
def repeatLast (g : Open) : Option Open := do
  let h := (← g.last) + 1
  some { g with row := ⟨g.row.size, max g.row.height h⟩, last := some h }

/-- How high the choice between the rows is. -/
def height (g : Open) : Nat :=
  match g.rows with
  | none => g.row.whole
  | some h => max h (g.row.whole + 1)

/-- A bar: another row. -/
def bar (g : Open) : Open :=
  { g with row := .empty, last := none, rows := some (max (g.rows.getD 0) (g.row.whole + 1)) }

end Open

/-- An escape as a part of a row. -/
def Mode.admitsEscape (m : Mode) : Escape → Bool
  | .literal c byte => m.admitsLiteral c byte
  | .wordClass negated => m.admitsWordClass negated
  | .wordEdge => !m.allScripts
  | .textEdge => true

/-- The rest of a pattern of which the groups from the innermost on are open and
some names are taken: how high the pattern is. -/
def readParts : Nat → List String → Open → List Open → List Char → Option Nat
  | 0, _, _, _, _ => none
  | fuel + 1, names, g, outer, cs =>
      match g.mode.skip cs with
      | [] => if outer.isEmpty then some g.height else none
      | c :: rest =>
          match c with
          | '(' => do
              match ← readOpened g.mode rest with
              | (.mode m, rest) => readParts fuel names (g.setMode m) outer rest
              | (.group m none, rest) => readParts fuel names (.start m) (g :: outer) rest
              | (.group m (some name), rest) =>
                  if names.contains name then none
                  else readParts fuel (name :: names) (.start m) (g :: outer) rest
          | ')' =>
              match outer with
              | [] => none
              | around :: outer => readParts fuel names (around.push (g.height + 1)) outer rest
          | '|' => readParts fuel names g.bar outer rest
          | '[' => do
              let (height, rest) ← readClass g.mode rest
              readParts fuel names (g.push height) outer rest
          | '?' | '*' | '+' => do
              let rest := match rest with
                | '?' :: rest => rest
                | rest => rest
              readParts fuel names (← g.repeatLast) outer rest
          | '\x7b' => none
          | '\\' => do
              let (escape, rest) ← readEscape g.mode rest
              if g.mode.admitsEscape escape then readParts fuel names (g.push 0) outer rest
              else none
          | '.' => if g.mode.allScripts then readParts fuel names (g.push 0) outer rest else none
          | '^' | '$' => readParts fuel names (g.push 0) outer rest
          | c =>
              if g.mode.admitsLiteral c false then readParts fuel names (g.push 0) outer rest
              else none

/-- Whether a text is a pattern that can be used. -/
def isUsable (cs : List Char) : Bool :=
  (readParts (cs.length + 1) [] (.start .initial) [] cs).any (· ≤ deepest)

end StartStep.Text.Pattern
