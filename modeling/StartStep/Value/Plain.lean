import StartStep.Failure
import StartStep.Int64Range
import StartStep.Json.Printer
import StartStep.Value

/-!
# Values from plain JSON

Properties in fixtures and operands on the command line are written as plain
JSON. Numbers become integers if they are signed 64-bit integers and doubles
otherwise; objects have no value.
-/

namespace StartStep

/-- The value of a JSON number. -/
def Value.ofNumber : Json.Number → Value
  | .integer i =>
      if fitsInt64 i then .int (Int64.ofInt i) else .float (Double.ofInt i)
  | .float x => .float x

mutual

/-- The value of a document in normal form; the first object in it is refused. -/
def Value.ofJson : Json → Except Failure Value
  | .null => .ok .null
  | .bool b => .ok (.bool b)
  | .number n => .ok (.ofNumber n)
  | .string s => .ok (.string s)
  | .array items => do .ok (.list (← ofJsonItems items))
  | .object fields => .error (.objectValue (Json.compact (.object fields)))

def Value.ofJsonItems : List Json → Except Failure (List Value)
  | [] => .ok []
  | j :: rest => do
      let v ← Value.ofJson j
      let more ← Value.ofJsonItems rest
      .ok (v :: more)

end

end StartStep
