import StartStep.Double.Layout
import StartStep.SortedMap

/-!
# JSON documents

A document as a tree. An object keeps its fields in the order in which they
were written, repetitions included; `normal` is the same document with every
object sorted by key and, of repeated fields, the last one kept.
-/

namespace StartStep

/-- A number of a document: an integer between `-2^63` and `2^64 - 1`, or a double. -/
inductive Json.Number
  | integer (value : Int)
  | float (value : Double)
deriving DecidableEq

inductive Json
  | null
  | bool (value : Bool)
  | number (value : Json.Number)
  | string (value : String)
  | array (items : List Json)
  | object (fields : List (String × Json))

instance : Inhabited Json := ⟨.null⟩

namespace Json

def integer (i : Int) : Json := .number (.integer i)

def natural (n : Nat) : Json := .number (.integer n)

/-- A double as a document: `null` stands for what JSON cannot write. -/
def ofDouble (x : Double) : Json := if x.isFinite then .number (.float x) else .null

def strings (items : List String) : Json := .array (items.map .string)

/-- The value of a field; of repeated fields the last one counts. -/
def field? (key : String) : Json → Option Json
  | .object fields => (fields.reverse.find? fun f => f.1 == key).map (·.2)
  | _ => none

mutual

/-- The document with sorted objects, of repeated fields the last one kept. -/
def normal : Json → Json
  | .array items => .array (normalItems items)
  | .object fields => .object (SortedMap.ofList (normalFields fields)).entries
  | j => j

def normalItems : List Json → List Json
  | [] => []
  | j :: rest => normal j :: normalItems rest

def normalFields : List (String × Json) → List (String × Json)
  | [] => []
  | (key, j) :: rest => (key, normal j) :: normalFields rest

end

mutual

/-- How many arrays and objects stand inside one another. -/
def depth : Json → Nat
  | .array items => depthItems items + 1
  | .object fields => depthFields fields + 1
  | _ => 0

def depthItems : List Json → Nat
  | [] => 0
  | j :: rest => max (depth j) (depthItems rest)

def depthFields : List (String × Json) → Nat
  | [] => 0
  | (_, j) :: rest => max (depth j) (depthFields rest)

end

end Json

end StartStep
