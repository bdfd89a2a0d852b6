import StartStep.Constraint
import StartStep.AccessPath
import StartStep.Json.Printer
import StartStep.Text.Lines

/-!
# Explaining a plan

A plan is shown as a tree of operators, each with properties. Properties that
hold literal data say so, and their values can be withheld: a withheld value
is written `?`.
-/

namespace StartStep

structure PlanProperty where
  key : String
  value : String
  /-- Whether the value is literal data. -/
  redactable : Bool
deriving DecidableEq

namespace PlanProperty

def plain (key value : String) : PlanProperty := ⟨key, value, false⟩

def literal (key value : String) : PlanProperty := ⟨key, value, true⟩

def text (redact : Bool) (p : PlanProperty) : String :=
  p.key ++ "=" ++ if redact && p.redactable then "?" else p.value

def json (p : PlanProperty) : Json :=
  .object [("key", .string p.key), ("value", .string p.value), ("redactable", .bool p.redactable)]

end PlanProperty

/-- An operator of a plan, its properties, and the operators it reads from. -/
inductive PlanNode
  | node (op : String) (properties : List PlanProperty) (inputs : List PlanNode)

instance : Inhabited PlanNode := ⟨.node "" [] []⟩

namespace PlanNode

/-- The line of an operator, without its indentation. -/
def line (redact : Bool) (op : String) (properties : List PlanProperty) : String :=
  match properties with
  | [] => op
  | _ => op ++ " " ++ " ".intercalate (properties.map (PlanProperty.text redact))

def indentation (depth : Nat) : String := String.ofList (List.replicate (2 * depth) ' ')

mutual

/-- The lines of a tree whose root stands at a depth. -/
def lines (redact : Bool) (depth : Nat) : PlanNode → List String
  | .node op properties inputs =>
      (indentation depth ++ line redact op properties) :: inputLines redact (depth + 1) inputs

def inputLines (redact : Bool) (depth : Nat) : List PlanNode → List String
  | [] => []
  | n :: rest => lines redact depth n ++ inputLines redact depth rest

end

mutual

def json : PlanNode → Json
  | .node op properties inputs =>
      .object [("op", .string op), ("props", .array (properties.map PlanProperty.json)),
        ("inputs", .array (inputJsons inputs))]

def inputJsons : List PlanNode → List Json
  | [] => []
  | n :: rest => json n :: inputJsons rest

end

/-- The operator that fetches the candidates. -/
def access (path : AccessPath) (kind : ElementKind) : PlanNode :=
  let own := match path with
    | .byId ids => [.plain "ids" (idsText ids)]
    | .byIndex query =>
        [.plain "index" query.index.name, .plain "class" query.index.className,
          .plain "key" query.key] ++ query.values.map fun v => .literal "value" v.text
    | .fullScan => []
  .node path.name (.plain "kind" kind.name :: own) []

/-- The tree of a plan: filtering by the constraints, if there are any, above
the operator that fetches the candidates. -/
def ofPlan (path : AccessPath) (kind : ElementKind) (constraints : List Constraint) : PlanNode :=
  match constraints with
  | [] => access path kind
  | _ =>
      .node "ResidualFilter" (constraints.map fun c => .literal "constraint" c.text)
        [access path kind]

end PlanNode

/-- A step's plan with the text of the step. -/
structure Explanation where
  step : String
  root : PlanNode

namespace Explanation

def ofPlan (step : String) (path : AccessPath) (kind : ElementKind)
    (constraints : List Constraint) : Explanation :=
  ⟨step, .ofPlan path kind constraints⟩

/-- The lines of an explanation: the step, and the tree below it. -/
def lines (redact : Bool) (x : Explanation) : List String := x.step :: x.root.lines redact 1

/-- The text of an explanation, literal data being withheld on demand. The
text of the step is never changed. -/
def render (redact : Bool) (x : Explanation) : String := Text.ofLines (x.lines redact)

def json (x : Explanation) : Json :=
  .object [("step", .string x.step), ("root", x.root.json)]

end Explanation

end StartStep
