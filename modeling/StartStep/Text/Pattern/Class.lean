import StartStep.Text.Pattern.Escape

/-!
# Patterns: classes in brackets

A class is a run of members between brackets: characters, ranges of them,
classes by name and classes in brackets of their own. Two signs of one kind
join what stands before them with what stands behind.

Of a class only its height is kept, how deep its parts lie inside one another.
-/

namespace StartStep.Text.Pattern

/-- Parts that stand side by side. -/
structure Row where
  size : Nat
  /-- How high the highest part is. -/
  height : Nat
deriving DecidableEq

def Row.empty : Row := ⟨0, 0⟩

/-- A row with one more part. -/
def Row.push (r : Row) (height : Nat) : Row := ⟨r.size + 1, max r.height height⟩

/-- How high a row is as one part: a row of one is that one. -/
def Row.whole (r : Row) : Nat := if r.size ≤ 1 then r.height else r.height + 1

/-- A class that is not closed yet. -/
structure OpenClass where
  negated : Bool
  members : Row
  /-- How high is what stands before the last sign that joins. -/
  joined : Option Nat
deriving DecidableEq

namespace OpenClass

def push (k : OpenClass) (height : Nat) : OpenClass := { k with members := k.members.push height }

/-- How high the class is inside its brackets. -/
def content (k : OpenClass) : Nat :=
  match k.joined with
  | none => k.members.whole
  | some h => max h k.members.whole + 1

/-- The class behind a sign that joins. -/
def join (k : OpenClass) : OpenClass := ⟨k.negated, .empty, some k.content⟩

/-- How high the class is. -/
def height (k : OpenClass) : Nat := k.content + 1

end OpenClass

/-- Takes a sign that opens a class for a member of it. -/
def takeMember (m : Mode) (k : OpenClass) (c : Char) : Option OpenClass :=
  if m.admitsMember c then some (k.push 0) else none

/-- The hyphens that a class begins with are members. -/
def readHyphens (m : Mode) : Nat → OpenClass → List Char → Option (OpenClass × List Char)
  | 0, _, _ => none
  | fuel + 1, k, cs =>
      match m.skip cs with
      | [] => none
      | '-' :: rest => do readHyphens m fuel (← takeMember m k '-') rest
      | cs => some (k, cs)

/-- A class from behind its opening bracket up to its first proper member. -/
def openClass (m : Mode) (cs : List Char) : Option (OpenClass × List Char) := do
  let cs := m.skip cs
  let (negated, cs) := match cs with
    | '^' :: rest => (true, rest)
    | cs => (false, cs)
  let (k, cs) ← readHyphens m (cs.length + 1) ⟨negated, .empty, none⟩ cs
  match cs with
  | ']' :: rest =>
      if k.members.size = 0 then some (← takeMember m k ']', rest) else some (k, cs)
  | cs => some (k, cs)

/-- The names of classes of ASCII characters. -/
def classNames : List String :=
  ["alnum", "alpha", "ascii", "blank", "cntrl", "digit", "graph", "lower", "print", "punct",
    "space", "upper", "word", "xdigit"]

/-- A class by its name, from behind the bracket: whether it is negated, and
what follows it. -/
def readNamedClass : List Char → Option (Bool × List Char)
  | ':' :: cs =>
      let (negated, cs) := match cs with
        | '^' :: rest => (true, rest)
        | cs => (false, cs)
      let name := cs.takeWhile (· != ':')
      match cs.drop name.length with
      | ':' :: ']' :: rest =>
          if classNames.contains (String.ofList name) then some (negated, rest) else none
      | _ => none
  | _ => none

/-- A character or an escape in a class. -/
def readMemberPart (m : Mode) : List Char → Option (Escape × List Char)
  | [] => none
  | '\\' :: rest => readEscape m rest
  | c :: rest => some (.literal c false, rest)

/-- Whether an escape can be a member on its own. -/
def Mode.admitsPart (m : Mode) : Escape → Bool
  | .literal c _ => m.admitsMember c
  | .wordClass negated => m.admitsWordClass negated
  | _ => false

/-- Whether two escapes are the ends of a range. -/
def Mode.admitsRange (m : Mode) : Escape → Escape → Bool
  | .literal a _, .literal b _ => m.admitsMember a && m.admitsMember b && a ≤ b
  | _, _ => false

/-- A member or a range of members; what follows it. A hyphen before the end of
the class or before another hyphen makes no range. -/
def readMember (m : Mode) (cs : List Char) : Option (List Char) := do
  let (first, rest) ← readMemberPart m cs
  let alone := if m.admitsPart first then some (m.skip rest) else none
  match m.skip rest with
  | [] => none
  | '-' :: behind =>
      if m.peek behind = some ']' || m.peek behind = some '-' then alone
      else
        let (last, rest) ← readMemberPart m (m.skip behind)
        if m.admitsRange first last then some rest else none
  | _ => alone

/-- The rest of the classes that are open, the innermost first: how high the
outermost is, and what follows it. -/
def readClasses (m : Mode) : Nat → List OpenClass → List Char → Option (Nat × List Char)
  | fuel + 1, k :: outer, cs =>
      match m.skip cs with
      | [] => none
      | ']' :: rest =>
          if !m.admitsBrackets k.negated then none
          else
            match outer with
            | [] => some (k.height, rest)
            | above :: outer => readClasses m fuel (above.push k.height :: outer) rest
      | '[' :: rest =>
          match readNamedClass rest with
          | some (negated, rest) =>
              if m.admitsNamedClass negated then readClasses m fuel (k.push 0 :: outer) rest
              else none
          | none => do
              let (inner, rest) ← openClass m rest
              readClasses m fuel (inner :: k :: outer) rest
      | '&' :: '&' :: rest => readClasses m fuel (k.join :: outer) rest
      | '-' :: '-' :: rest => readClasses m fuel (k.join :: outer) rest
      | '~' :: '~' :: rest => readClasses m fuel (k.join :: outer) rest
      | cs => do readClasses m fuel (k.push 0 :: outer) (← readMember m cs)
  | _, _, _ => none

/-- A class from behind its opening bracket: how high it is, and what follows. -/
def readClass (m : Mode) (cs : List Char) : Option (Nat × List Char) := do
  let (k, rest) ← openClass m cs
  readClasses m (cs.length + 1) [k] rest

end StartStep.Text.Pattern
