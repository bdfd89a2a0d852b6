import StartStep.Double.Layout
import StartStep.Double.Rounding
import StartStep.Text.Quoted

/-!
# Property values

The values that properties have and constraints compare with. There are two
ways to compare them. Equality as filters and index probes use it (`looseEq`)
lets an integer equal a double of the same number, inside lists as well; it
rounds the integer to a double first, so that distinct large integers can
equal one double. Order (`order`) exists between numbers, between texts and
between truth values, and between nothing else.
-/

namespace StartStep

inductive Value
  | null
  | bool (value : Bool)
  | int (value : Int64)
  | float (value : Double)
  | string (value : String)
  | list (items : List Value)

instance : Inhabited Value := ⟨.null⟩

namespace Value

/-- The items of a list. -/
def items? : Value → Option (List Value)
  | .list items => some items
  | _ => none

/-- An integer as a double, rounded. -/
def widen (i : Int64) : Double := Double.ofInt i.toInt

mutual

/-- Equality within one kind of value, doubles being compared as numbers. -/
def strictEq : Value → Value → Bool
  | .null, .null => true
  | .bool a, .bool b => a == b
  | .int a, .int b => a == b
  | .float a, .float b => a.numEq b
  | .string a, .string b => a == b
  | .list a, .list b => strictEqItems a b
  | _, _ => false

def strictEqItems : List Value → List Value → Bool
  | [], [] => true
  | a :: as, b :: bs => strictEq a b && strictEqItems as bs
  | _, _ => false

end

mutual

/-- Equality with integers and doubles compared as doubles, at any depth. -/
def looseEq : Value → Value → Bool
  | .null, .null => true
  | .bool a, .bool b => a == b
  | .int a, .int b => a == b
  | .int a, .float b => (widen a).numEq b
  | .float a, .int b => (widen b).numEq a
  | .float a, .float b => a.numEq b
  | .string a, .string b => a == b
  | .list a, .list b => looseEqItems a b
  | _, _ => false

def looseEqItems : List Value → List Value → Bool
  | [], [] => true
  | a :: as, b :: bs => looseEq a b && looseEqItems as bs
  | _, _ => false

end

/-- The order of two values, where they have one. -/
def order : Value → Value → Option Ordering
  | .int a, .int b => some (compare a b)
  | .int a, .float b => (widen a).order b
  | .float a, .int b => a.order (widen b)
  | .float a, .float b => a.order b
  | .string a, .string b => some (compare a b)
  | .bool a, .bool b => some (compare a b)
  | _, _ => none

mutual

/-- The plain text of a value. -/
def text : Value → String
  | .null => "null"
  | .bool true => "true"
  | .bool false => "false"
  | .int i => toString i.toInt
  | .float x => Double.write Double.display x
  | .string s => s
  | .list items => Text.bracketed (itemTexts items)

def itemTexts : List Value → List String
  | [] => []
  | v :: rest => text v :: itemTexts rest

end

mutual

/-- The detailed form of a value, which names its kind and quotes text. -/
def detailed : Value → String
  | .null => "Null"
  | .bool true => "Bool(true)"
  | .bool false => "Bool(false)"
  | .int i => "Int(" ++ toString i.toInt ++ ")"
  | .float x => "Float(" ++ Double.write Double.detailed x ++ ")"
  | .string s => "String(" ++ Text.quoted s ++ ")"
  | .list items => "List(" ++ Text.bracketed (itemDetails items) ++ ")"

def itemDetails : List Value → List String
  | [] => []
  | v :: rest => detailed v :: itemDetails rest

end

end Value

end StartStep
