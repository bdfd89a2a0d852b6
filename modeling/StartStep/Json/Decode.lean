import StartStep.Json.Draft

/-!
# Reading a draft as something

A decoder walks a draft in text order and gives what it stands for, or the
first fault on its way. Decoders for text, numbers, lists, maps, named choices
and records are here; those of the library's own types are built from them.

`room` is how many arrays and objects may still be opened inside one another.
-/

namespace StartStep.Json

/-- How many arrays and objects a text may open inside one another. -/
def deepest : Nat := 127

/-- A decoder: the room below it, then the draft it reads. -/
abbrev Decoder (α : Type) := Nat → Draft → Except Fault α

/-- A decoder for a record's field, changing what has been gathered of the record. -/
abbrev FieldDecoder (α : Type) := String → Nat → Draft → α → Except Fault α

/-- Enters an array or object. -/
def enter (room : Nat) : Except Fault Nat :=
  match room with
  | 0 => .error .malformed
  | room + 1 => .ok room

/-- The fault of a value that is not of the form asked for. A scalar is read
to its end before it is found unfit, an array or object is not even entered. -/
def Draft.unfit {α : Type} : Draft → Except Fault α
  | .number n => do
      let _ ← n.number
      .error .mismatched
  | .text literal => do
      let _ ← literal.content
      .error .mismatched
  | .broken f => .error f.reading
  | .missing => .error .truncated
  | _ => .error .mismatched

def decodeString : Decoder String
  | _, .text literal => literal.content
  | _, d => d.unfit

def decodeBool : Decoder Bool
  | _, .bool b => .ok b
  | _, d => d.unfit

/-- An integer between two bounds, both included. -/
def decodeInteger (least greatest : Int) : Decoder Int
  | _, .number n => do
      match ← n.number with
      | .integer i => if least ≤ i && i ≤ greatest then .ok i else .error .mismatched
      | .float _ => .error .mismatched
  | _, d => d.unfit

/-- A signed 64-bit integer. -/
def decodeInt64 : Decoder Int64 := fun room d =>
  Int64.ofInt <$> decodeInteger (-0x8000000000000000) 0x7FFFFFFFFFFFFFFF room d

/-- An unsigned 64-bit integer. -/
def decodeUInt64 : Decoder UInt64 := fun room d =>
  (fun i => UInt64.ofNat i.toNat) <$> decodeInteger 0 0xFFFFFFFFFFFFFFFF room d

/-- A number as a double. -/
def Number.toDouble : Number → Double
  | .integer i => Double.ofInt i
  | .float x => x

/-- A double; integers are rounded. -/
def decodeDouble : Decoder Double
  | _, .number n => Number.toDouble <$> n.number
  | _, d => d.unfit

/-- A value that may be given as `null`. -/
def decodeOption {α : Type} (decode : Decoder α) : Decoder (Option α)
  | _, .null => .ok none
  | room, d => some <$> decode room d

def decodeItems {α : Type} (decode : Decoder α) (room : Nat) :
    DraftItems → Except Fault (List α)
  | .closed => .ok []
  | .broken f => .error f
  | .item value rest => do
      let a ← decode room value
      let more ← decodeItems decode room rest
      .ok (a :: more)

/-- A list. -/
def decodeList {α : Type} (decode : Decoder α) : Decoder (List α)
  | room, .array items => do decodeItems decode (← enter room) items
  | _, d => d.unfit

def decodeEntries {α : Type} (decode : Decoder α) (room : Nat) :
    DraftFields → Except Fault (List (String × α))
  | .closed => .ok []
  | .broken f => .error f
  | .cut => .error .truncated
  | .stray _ => .error .malformed
  | .field key value rest => do
      let k ← key.content
      let a ← decode room value
      let more ← decodeEntries decode room rest
      .ok ((k, a) :: more)

/-- A map; of repeated keys the last one counts. -/
def decodeMap {α : Type} (decode : Decoder α) : Decoder (SortedMap String α)
  | room, .object fields => do SortedMap.ofList <$> decodeEntries decode (← enter room) fields
  | _, d => d.unfit

/-- `null`, where nothing else may stand. -/
def decodeNull : Decoder Unit
  | _, .null => .ok ()
  | _, d => d.unfit

/-- What a name stands for. -/
def named {α : Type} (choices : String → Option α) (name : String) : Except Fault α :=
  match choices name with
  | some a => .ok a
  | none => .error .mismatched

/-- One of a few named choices: its name, or an object whose one field has its
name and is `null`. Any other value is no JSON text for a choice at all. -/
def decodeChoice {α : Type} (choices : String → Option α) : Decoder α
  | _, .text literal => do named choices (← literal.content)
  | room, .object fields => do
      let room ← enter room
      match fields with
      | .closed => .error .malformed
      | .broken f => .error f
      | .cut => .error .truncated
      | .stray _ => .error .malformed
      | .field key value rest =>
          let a ← named choices (← key.content)
          decodeNull room value
          match rest with
          | .closed => .ok a
          | .broken f => .error f
          | _ => .error .malformed
  | _, .missing => .error .truncated
  | _, _ => .error .malformed

/-- A record as an array of its fields. The fields behind the last one given
keep what they have, and the names of those given are gathered in reverse. -/
def decodeInOrder {α : Type} (decode : FieldDecoder α) (room : Nat) :
    List String → List String → α → DraftItems → Except Fault (List String × α)
  | _, seen, a, .closed => .ok (seen, a)
  | _, _, _, .broken f => .error f
  | [], _, _, .item .. => .error .malformed
  | name :: names, seen, a, .item value rest => do
      let a ← decode name room value a
      decodeInOrder decode room names (name :: seen) a rest

/-- A record as an object. Unknown fields are passed over, repeated ones refused. -/
def decodeByName {α : Type} (decode : FieldDecoder α) (names : List String) (room : Nat) :
    List String → α → DraftFields → Except Fault (List String × α)
  | seen, a, .closed => .ok (seen, a)
  | _, _, .broken f => .error f
  | _, _, .cut => .error .truncated
  | _, _, .stray _ => .error .malformed
  | seen, a, .field key value rest => do
      let name ← key.content
      if names.contains name then
        if seen.contains name then .error .mismatched
        else
          let a ← decode name room value a
          decodeByName decode names room (name :: seen) a rest
      else
        value.skip
        decodeByName decode names room seen a rest

/-- The form of a record: its fields in order, those that have to be given,
and how each of them is read into what has been gathered. -/
structure RecordForm (α : Type) where
  names : List String
  required : List String
  blank : α
  decode : FieldDecoder α

/-- A record of a form, as an object or as an array of its fields in order. -/
def RecordForm.read {α : Type} (form : RecordForm α) : Decoder α := fun room d => do
  let (seen, a) ← match d with
    | .array items => do
        decodeInOrder form.decode (← enter room) form.names [] form.blank items
    | .object fields => do
        decodeByName form.decode form.names (← enter room) [] form.blank fields
    | d => d.unfit
  if form.required.all seen.contains then .ok a else .error .mismatched

mutual

/-- Any document. -/
def decodeJson : Nat → Draft → Except Fault Json
  | _, .null => .ok .null
  | _, .bool b => .ok (.bool b)
  | _, .number n => do .ok (.number (← n.number))
  | _, .text literal => do .ok (.string (← literal.content))
  | room, .array items => do .ok (.array (← decodeJsonItems (← enter room) items))
  | room, .object fields => do .ok (.object (← decodeJsonFields (← enter room) fields))
  | _, .broken f => .error f.reading
  | _, .missing => .error .truncated

def decodeJsonItems (room : Nat) : DraftItems → Except Fault (List Json)
  | .closed => .ok []
  | .broken f => .error f
  | .item value rest => do
      let j ← decodeJson room value
      let more ← decodeJsonItems room rest
      .ok (j :: more)

def decodeJsonFields (room : Nat) : DraftFields → Except Fault (List (String × Json))
  | .closed => .ok []
  | .broken f => .error f
  | .cut => .error .truncated
  | .stray _ => .error .malformed
  | .field key value rest => do
      let k ← key.content
      let j ← decodeJson room value
      let more ← decodeJsonFields room rest
      .ok ((k, j) :: more)

end

/-- Reads a whole text: its value, and nothing but blanks behind it. -/
def decodeText {α : Type} (decode : Decoder α) (s : String) : Except Fault α := do
  let (draft, after) := Draft.ofText s
  let a ← decode deepest draft
  match after with
  | some rest => if (skipBlanks rest).isEmpty then .ok a else .error .malformed
  | none => .error .malformed

/-- The document a text holds, in normal form. -/
def parse (s : String) : Except Fault Json := Json.normal <$> decodeText decodeJson s

end StartStep.Json
