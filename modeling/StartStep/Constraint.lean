import StartStep.Element
import StartStep.Failure

/-!
# Constraints

A constraint compares what an element has under a key with an operand. Two
keys are reserved: `~label` for the element's class label and `~id` for its
identifier; every other key is a property. An element that has nothing under
the key satisfies no constraint on it, not even a negated one. A membership
constraint with an operand that is no list is an error for every element,
whether the element has something under the key or not.
-/

namespace StartStep

def labelKey : String := "~label"

def idKey : String := "~id"

/-- What a key stands for. -/
inductive KeyKind
  | label
  | id
  | property
deriving DecidableEq

def KeyKind.ofKey (key : String) : KeyKind :=
  if key = labelKey then .label else if key = idKey then .id else .property

def KeyKind.name : KeyKind → String
  | .label => "label"
  | .id => "id"
  | .property => "property"

/-- How an element's value is compared with the operand. -/
inductive Predicate
  | eq
  | neq
  | lt
  | le
  | gt
  | ge
  | within
  | without
deriving DecidableEq

namespace Predicate

def all : List Predicate := [.eq, .neq, .lt, .le, .gt, .ge, .within, .without]

/-- The name in diagnostics and on the command line. -/
def name : Predicate → String
  | .eq => "eq"
  | .neq => "neq"
  | .lt => "lt"
  | .le => "lte"
  | .gt => "gt"
  | .ge => "gte"
  | .within => "within"
  | .without => "without"

/-- The name in JSON. -/
def jsonName : Predicate → String
  | .le => "le"
  | .ge => "ge"
  | p => p.name

/-- The name in the detailed form of a step. -/
def detailed : Predicate → String
  | .eq => "Eq"
  | .neq => "Neq"
  | .lt => "Lt"
  | .le => "Le"
  | .gt => "Gt"
  | .ge => "Ge"
  | .within => "Within"
  | .without => "Without"

def ofName (s : String) : Option Predicate := all.find? fun p => p.name == s

def ofJsonName (s : String) : Option Predicate := all.find? fun p => p.jsonName == s

/-- Whether a constraint with this predicate can drive an index probe. -/
def isIndexEligible : Predicate → Bool
  | .eq | .within => true
  | _ => false

/-- Whether the operand has to be a list. -/
def needsList : Predicate → Bool
  | .within | .without => true
  | _ => false

end Predicate

structure Constraint where
  key : String
  predicate : Predicate
  value : Value

instance : Inhabited Constraint := ⟨⟨"", .eq, .null⟩⟩

namespace Constraint

def eq (key : String) (value : Value) : Constraint := ⟨key, .eq, value⟩

def within (key : String) (values : List Value) : Constraint := ⟨key, .within, .list values⟩

/-- The constraint that names a class label. -/
def label (label : String) : Constraint := eq labelKey (.string label)

def keyKind (c : Constraint) : KeyKind := .ofKey c.key

def text (c : Constraint) : String :=
  c.key ++ "." ++ c.predicate.name ++ "(" ++ c.value.text ++ ")"

def detailed (c : Constraint) : String :=
  "Constraint \x7b key: " ++ Text.quoted c.key ++ ", predicate: " ++ c.predicate.detailed ++
    ", value: " ++ c.value.detailed ++ " \x7d"

/-- The operand of a membership constraint. -/
def listOperand (c : Constraint) : Except Failure (List Value) :=
  match c.value.items? with
  | some items => .ok items
  | none => .error (.operandNotList c.key)

/-- The values an index is probed with: the operand, or its items. -/
def probeValues (c : Constraint) : Except Failure (List Value) :=
  match c.predicate with
  | .eq => .ok [c.value]
  | .within => c.listOperand
  | _ => .error (.notProbeable c.key)

/-- What an element has under the key, if anything. Identifiers above the
signed range have no value. -/
def actual? (c : Constraint) (e : Element) : Option Value :=
  match c.keyKind with
  | .label => some (.string e.label)
  | .id => if e.id.toNat < 0x8000000000000000 then some (.int (Int64.ofInt e.id.toNat)) else none
  | .property => e.property? c.key

/-- Whether a value compares with the operand as the predicate asks. -/
def holds (c : Constraint) (actual : Value) : Except Failure Bool :=
  let ordered (accept : Ordering → Bool) : Bool :=
    match actual.order c.value with
    | some o => accept o
    | none => false
  match c.predicate with
  | .eq => .ok (actual.looseEq c.value)
  | .neq => .ok (!actual.looseEq c.value)
  | .lt => .ok (ordered (· == .lt))
  | .le => .ok (ordered (· != .gt))
  | .gt => .ok (ordered (· == .gt))
  | .ge => .ok (ordered (· != .lt))
  | .within => do .ok ((← c.listOperand).any actual.looseEq)
  | .without => do .ok (!(← c.listOperand).any actual.looseEq)

/-- Whether an element satisfies the constraint. -/
def test (c : Constraint) (e : Element) : Except Failure Bool :=
  match c.actual? e with
  | some actual => c.holds actual
  | none =>
      if c.predicate.needsList then do
        let _ ← c.listOperand
        .ok false
      else .ok false

end Constraint

/-- Whether an element satisfies every constraint. Those behind the first one
it fails are not looked at. -/
def testAll (e : Element) : List Constraint → Except Failure Bool
  | [] => .ok true
  | c :: rest => do if ← c.test e then testAll e rest else .ok false

/-- The class label that the constraints name: the scalar operand of the first
label constraint, if that is an equality. -/
def classLabel (constraints : List Constraint) : Option String :=
  match constraints.find? fun c => c.keyKind == .label with
  | some c =>
      if c.predicate = .eq then
        match c.value with
        | .list _ => none
        | v => some v.text
      else none
  | none => none

end StartStep
