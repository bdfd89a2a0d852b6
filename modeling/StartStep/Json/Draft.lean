import StartStep.Json.Numeral
import StartStep.Json.Literal

/-!
# A text read as far as it goes

Whether a text is JSON, and whether it has the form a reader asks for, are
questions that meet in one text: the first fault from its beginning is the one
that counts, whichever kind it is. So a text is first turned into a draft,
which never fails: it is the tree of the text up to the place where the text
stops being JSON, and that place is part of the tree. What is wrong with the
text is then found by walking the draft in text order, and a fault behind the
place where the walk stops is never seen.

A draft also keeps apart what only some walks object to: numbers too large,
surrogates that stand alone, and depth.
-/

namespace StartStep.Json

mutual

/-- A value of a text, as far as it can be read. -/
inductive Draft
  | null
  | bool (value : Bool)
  | number (numeral : Numeral)
  | text (literal : Literal)
  | array (items : DraftItems)
  | object (fields : DraftFields)
  /-- Something that begins like a value, or like nothing at all, and is not one. -/
  | broken (fault : NumeralFault)
  /-- The text ends where a value has to begin. -/
  | missing

/-- The items of an array, as far as they can be read. -/
inductive DraftItems
  | closed
  /-- After an item comes neither a comma nor a bracket. -/
  | broken (fault : Fault)
  | item (value : Draft) (rest : DraftItems)

/-- The fields of an object, as far as they can be read. -/
inductive DraftFields
  | closed
  /-- After a field comes neither a comma nor a brace. -/
  | broken (fault : Fault)
  /-- The text ends after a comma. -/
  | cut
  /-- Something other than a string stands where a key has to. -/
  | stray (found : Draft)
  | field (key : Literal) (value : Draft) (rest : DraftFields)

end

/-- Blanks between the parts of a document. -/
def isBlank (c : Char) : Bool := c == ' ' || c == '\t' || c == '\n' || c == '\r'

def skipBlanks (cs : List Char) : List Char := cs.dropWhile isBlank

/-- One fault for every reader. -/
def Draft.fault (f : Fault) : Draft := .broken ⟨f, f⟩

/-- A fixed word, of which the first letter is read. -/
def readWord (value : Draft) : List Char → List Char → Draft × Option (List Char)
  | [], cs => (value, some cs)
  | _ :: _, [] => (.fault .truncated, none)
  | w :: word, c :: cs => if w = c then readWord value word cs else (.fault .malformed, none)

/-- A numeral as a value. -/
def readNumber (cs : List Char) : Draft × Option (List Char) :=
  match Numeral.read cs with
  | .ok (n, rest) => (.number n, some rest)
  | .error f => (.broken f, none)

mutual

/-- The value a text begins with, and what follows it, if anything can. -/
def readDraft : Nat → List Char → Draft × Option (List Char)
  | 0, _ => (.missing, none)
  | fuel + 1, cs =>
      match skipBlanks cs with
      | [] => (.missing, none)
      | c :: rest =>
          match c with
          | 'n' => readWord .null ['u', 'l', 'l'] rest
          | 't' => readWord (.bool true) ['r', 'u', 'e'] rest
          | 'f' => readWord (.bool false) ['a', 'l', 's', 'e'] rest
          | '"' =>
              let (literal, after) := Literal.read rest
              (.text literal, after)
          | '[' =>
              let (items, after) := readItems fuel true rest
              (.array items, after)
          | '\x7b' =>
              let (fields, after) := readFields fuel true rest
              (.object fields, after)
          | c =>
              if c == '-' || c.isDigit then readNumber (c :: rest)
              else (.fault .malformed, none)

/-- The items of an array from its start, or from behind an item. -/
def readItems : Nat → Bool → List Char → DraftItems × Option (List Char)
  | 0, _, _ => (.broken .truncated, none)
  | fuel + 1, first, cs =>
      match skipBlanks cs with
      | [] => (.broken .truncated, none)
      | c :: rest =>
          if c = ']' then (.closed, some rest)
          else if first then readItem fuel (c :: rest)
          else if c = ',' then readItem fuel rest
          else (.broken .malformed, none)

/-- An item and those behind it. -/
def readItem : Nat → List Char → DraftItems × Option (List Char)
  | 0, _ => (.broken .truncated, none)
  | fuel + 1, cs =>
      match readDraft fuel cs with
      | (value, none) => (.item value (.broken .truncated), none)
      | (value, some cs) =>
          let (rest, after) := readItems fuel false cs
          (.item value rest, after)

/-- The fields of an object from its start, or from behind a field. -/
def readFields : Nat → Bool → List Char → DraftFields × Option (List Char)
  | 0, _, _ => (.broken .truncated, none)
  | fuel + 1, first, cs =>
      match skipBlanks cs with
      | [] => (.broken .truncated, none)
      | c :: rest =>
          if c = '\x7d' then (.closed, some rest)
          else if first then readField fuel (c :: rest)
          else if c = ',' then
            match skipBlanks rest with
            | [] => (.cut, none)
            | cs => readField fuel cs
          else (.broken .malformed, none)

/-- A field and those behind it. -/
def readField : Nat → List Char → DraftFields × Option (List Char)
  | 0, _ => (.broken .truncated, none)
  | fuel + 1, cs =>
      match cs with
      | '"' :: cs =>
          match Literal.read cs with
          | (key, none) => (.field key .missing (.broken .truncated), none)
          | (key, some cs) =>
              match skipBlanks cs with
              | [] => (.field key .missing (.broken .truncated), none)
              | ':' :: cs =>
                  match readDraft fuel cs with
                  | (value, none) => (.field key value (.broken .truncated), none)
                  | (value, some cs) =>
                      let (rest, after) := readFields fuel false cs
                      (.field key value rest, after)
              | _ => (.field key (.fault .malformed) (.broken .malformed), none)
      | cs => (.stray (readDraft fuel cs).1, none)

end

/-- The draft of a whole text, and what follows its value. -/
def Draft.ofText (s : String) : Draft × Option (List Char) :=
  readDraft (3 * s.toList.length + 3) s.toList

mutual

/-- The fault met by a reader that only passes over a value. -/
def Draft.skip : Draft → Except Fault Unit
  | .text literal => literal.pass
  | .array items => items.skip
  | .object fields => fields.skip
  | .broken f => .error f.skipping
  | .missing => .error .truncated
  | _ => .ok ()

def DraftItems.skip : DraftItems → Except Fault Unit
  | .closed => .ok ()
  | .broken f => .error f
  | .item value rest => do value.skip; rest.skip

def DraftFields.skip : DraftFields → Except Fault Unit
  | .closed => .ok ()
  | .broken f => .error f
  | .cut => .error .truncated
  | .stray _ => .error .malformed
  | .field key value rest => do key.pass; value.skip; rest.skip

end

end StartStep.Json
