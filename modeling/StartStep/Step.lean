import StartStep.Explain
import StartStep.Planner
import StartStep.Resolver

/-!
# Start steps

A step gathers identifiers, labels and constraints, and is planned, resolved
or explained against the engine it is attached to.
-/

namespace StartStep

structure Step where
  kind : ElementKind
  ids : List ElementId
  /-- The names under which the step's results are known, sorted. -/
  labels : List String
  constraints : List Constraint
  config : PlannerConfig
  graph : Option Provider

namespace Step

/-- A step without constraints, attached to nothing. -/
def new (kind : ElementKind) (ids : List ElementId) : Step := ⟨kind, ids, [], [], {}, none⟩

def attach (s : Step) (p : Provider) : Step := { s with graph := some p }

def withConfig (s : Step) (config : PlannerConfig) : Step := { s with config }

def withLabels (s : Step) (labels : List String) : Step :=
  { s with labels := sortedSet (s.labels ++ labels) }

/-- Adds a constraint behind the others. -/
def has (s : Step) (c : Constraint) : Step := { s with constraints := s.constraints ++ [c] }

/-- The engine the step is attached to. -/
def provider (s : Step) : Run Provider :=
  match s.graph with
  | some p => pure p
  | none => .ofExcept (.error .noGraph)

/-- The index probe the step would use if it had no identifiers. -/
def findIndex (s : Step) : Run (Option IndexQuery) := do
  Planner.findIndex s.constraints s.kind (← s.provider)

def plan (s : Step) : Run AccessPath := do
  Planner.plan s.config s.constraints s.ids s.kind (← s.provider)

def resolve (s : Step) : Run Resolution := do
  let path ← s.plan
  Resolver.resolve path s.kind s.constraints (← s.provider)

/-- The text of a step; parts without content are left out. -/
def text (s : Step) : String :=
  let ids := if s.ids.isEmpty then "" else "," ++ idsText s.ids
  let constraints :=
    if s.constraints.isEmpty then ""
    else "," ++ Text.bracketed (s.constraints.map Constraint.text)
  let labels := if s.labels.isEmpty then "" else "@" ++ Text.bracketed s.labels
  "GraphStep(" ++ s.kind.name ++ ids ++ constraints ++ ")" ++ labels

/-- The detailed form of a step. -/
def detailed (s : Step) : String :=
  "GraphStep \x7b kind: " ++ s.kind.detailed ++
    ", ids: " ++ Text.bracketed (s.ids.map fun id => "ElementId(" ++ toString id.toNat ++ ")") ++
    ", labels: \x7b" ++ ", ".intercalate (s.labels.map Text.quoted) ++
    "\x7d, constraints: ConstraintStore \x7b constraints: " ++
    Text.bracketed (s.constraints.map Constraint.detailed) ++
    " \x7d, attached: " ++ toString s.graph.isSome ++ " \x7d"

def explain (s : Step) : Run Explanation := do
  return .ofPlan s.text (← s.plan) s.kind s.constraints

end Step

end StartStep
