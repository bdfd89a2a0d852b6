import StartStep.Int64Range
import StartStep.Json.Decode
import StartStep.Json.Printer
import StartStep.Value

/-!
# Values with their kind

Where a value has to be read back as it was, its JSON form is an object of
two fields: `t` names its kind and `v` holds its content, `null` having none.
The two may stand in any order, and instead of the object the array of the
two is accepted. In the object the kind is a choice and may be written like any
other; at the head of the array it is a bare name.

When `v` comes first its form is not yet known. It is then kept as a document
and looked at once `t` is read, and no fault in it can then be one of the text.
In a kept document the head of an array may be a kind's place instead of its name.
-/

namespace StartStep

namespace Value

/-- The kinds of values. -/
inductive Kind
  | null
  | bool
  | int
  | float
  | string
  | list
deriving DecidableEq

/-- The kinds in their order. -/
def Kind.all : List Kind := [.null, .bool, .int, .float, .string, .list]

def Kind.ofName : String → Option Kind
  | "Null" => some .null
  | "Bool" => some .bool
  | "Int" => some .int
  | "Float" => some .float
  | "String" => some .string
  | "List" => some .list
  | _ => none

/-- The object of a kind and a content. -/
def taggedObject (kind : String) (content : Json) : Json :=
  .object [("t", .string kind), ("v", content)]

mutual

/-- The JSON form of a value. -/
def tagged : Value → Json
  | .null => .object [("t", .string "Null")]
  | .bool b => taggedObject "Bool" (.bool b)
  | .int i => taggedObject "Int" (.integer i.toInt)
  | .float x => taggedObject "Float" (.ofDouble x)
  | .string s => taggedObject "String" (.string s)
  | .list items => taggedObject "List" (.array (taggedItems items))

def taggedItems : List Value → List Json
  | [] => []
  | v :: rest => tagged v :: taggedItems rest

end

/-! ## Content that was kept as a document -/

/-- The kind a kept document names where a choice is asked for. -/
def Kind.ofKept : Json → Option Kind
  | .string s => Kind.ofName s
  | .object [(s, .null)] => Kind.ofName s
  | .object [(s, .object [])] => Kind.ofName s
  | _ => none

/-- The kind at the head of a kept pair: its name, or its place among the kinds. -/
def Kind.ofKeptHead : Json → Option Kind
  | .string s => Kind.ofName s
  | .number (.integer i) => if 0 ≤ i then Kind.all[i.toNat]? else none
  | _ => none

/-- Whether a field is one of the two that make a value. -/
def isPart (f : String × Json) : Bool := f.1 == "t" || f.1 == "v"

mutual

/-- The value of a kept document. -/
def ofKept : Json → Option Value
  | .array [head, content] => do ofKeptContent (← Kind.ofKeptHead head) content
  | .object fields => ofKeptFields none fields
  | _ => none

/-- The value of a kept object, of which `t` may have been read. -/
def ofKeptFields (tag : Option Kind) : List (String × Json) → Option Value
  | [] => if tag = some .null then some .null else none
  | (key, j) :: rest =>
      if key = "t" then
        match tag with
        | none => do ofKeptFields (some (← Kind.ofKept j)) rest
        | some _ => none
      else if key = "v" then
        match tag with
        | some kind => if rest.any isPart then none else ofKeptContent kind j
        | none =>
            match rest.filter isPart with
            | [("t", tag)] => do ofKeptContent (← Kind.ofKept tag) j
            | _ => none
      else ofKeptFields tag rest

/-- The content of a kind as a kept document. -/
def ofKeptContent : Kind → Json → Option Value
  | .null, .null => some .null
  | .bool, .bool b => some (.bool b)
  | .int, .number (.integer i) =>
      if fitsInt64 i then some (.int (Int64.ofInt i)) else none
  | .float, .number n => some (.float n.toDouble)
  | .string, .string s => some (.string s)
  | .list, .array items => do some (.list (← ofKeptItems items))
  | _, _ => none

def ofKeptItems : List Json → Option (List Value)
  | [] => some []
  | j :: rest => do
      let v ← ofKept j
      let more ← ofKeptItems rest
      some (v :: more)

end

/-! ## Content that is read from a text -/

open Json

/-- How far an object with a kind and a content has been read. -/
inductive Progress
  | start
  | tag (kind : Kind)
  /-- The content came first. -/
  | kept (content : Json)
  | done (value : Value)

/-- The value of an object whose fields have all been read. -/
def Progress.value : Progress → Except Fault Value
  | .done value => .ok value
  | .tag .null => .ok .null
  | _ => .error .mismatched

/-- A kept content under its kind. -/
def ofKeptChecked (kind : Kind) (content : Json) : Except Fault Value :=
  match ofKeptContent kind content with
  | some value => .ok value
  | none => .error .mismatched

mutual

/-- A value with its kind. -/
def decode : Nat → Draft → Except Fault Value
  | room, .array items => do decodePair (← enter room) items
  | room, .object fields => do decodeFields (← enter room) .start fields
  | _, d => d.unfit

/-- A value as the array of its kind and its content. -/
def decodePair (room : Nat) : DraftItems → Except Fault Value
  | .closed => .error .mismatched
  | .broken f => .error f
  | .item tag rest => do
      let kind ← named Kind.ofName (← decodeString room tag)
      match rest with
      | .closed => .error .mismatched
      | .broken f => .error f
      | .item content rest =>
          let value ← decodeContent kind room content
          match rest with
          | .closed => .ok value
          | .broken f => .error f
          | .item .. => .error .malformed

/-- The rest of an object, from where it has been read. -/
def decodeFields (room : Nat) (progress : Progress) : DraftFields → Except Fault Value
  | .closed => progress.value
  | .broken f => .error f
  | .cut => .error .truncated
  | .stray _ => .error .malformed
  | .field key content rest => do
      let name ← key.content
      if name = "t" then
        match progress with
        | .start => do
            let kind ← decodeChoice Kind.ofName room content
            decodeFields room (.tag kind) rest
        | .kept kept => do
            let kind ← decodeChoice Kind.ofName room content
            decodeFields room (.done (← ofKeptChecked kind kept)) rest
        | _ => .error .mismatched
      else if name = "v" then
        match progress with
        | .start => do
            let kept ← decodeJson room content
            decodeFields room (.kept kept) rest
        | .tag kind => do
            let value ← decodeContent kind room content
            decodeFields room (.done value) rest
        | _ => .error .mismatched
      else
        content.skip
        decodeFields room progress rest

/-- The content of a kind. -/
def decodeContent (kind : Kind) (room : Nat) : Draft → Except Fault Value
  | .array items =>
      match kind with
      | .list => do .ok (.list (← decodeItemValues (← enter room) items))
      | .null => do
          let _ ← enter room
          .error .mismatched
      | _ => .error .mismatched
  | .object _ =>
      match kind with
      | .null => do
          let _ ← enter room
          .error .mismatched
      | _ => .error .mismatched
  | d =>
      match kind with
      | .null => (fun _ => .null) <$> decodeNull room d
      | .bool => .bool <$> decodeBool room d
      | .int => .int <$> decodeInt64 room d
      | .float => .float <$> decodeDouble room d
      | .string => .string <$> decodeString room d
      | .list => d.unfit

def decodeItemValues (room : Nat) : DraftItems → Except Fault (List Value)
  | .closed => .ok []
  | .broken f => .error f
  | .item value rest => do
      let v ← decode room value
      let more ← decodeItemValues room rest
      .ok (v :: more)

end

end Value

end StartStep
