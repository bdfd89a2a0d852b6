import StartStep.CommandLine.Given

/-!
# Invocations

What stands behind the command is read to its end before the last option in
front of the command is settled and the environment is looked at. In the end
the option nearest to the end of the command line counts, and the environment
where there is none.
-/

namespace StartStep.CommandLine

/-- What the environment says about the two options it may stand in for. -/
structure Surroundings where
  graph : Option String
  config : Option String
deriving DecidableEq

/-- What the environment says has to be fit wherever a level does not say it
itself. -/
def Surroundings.check (env : Surroundings) (g : Given) : Except UsageFault Unit := do
  let check (s : Switch) : Option String → Except UsageFault Unit
    | some value => if g.has s then .ok () else do let _ ← parsePath s value
    | none => .ok ()
  check .graph env.graph
  check .config env.config

/-- Settles a level to its end. -/
def finishLevel (env : Surroundings) (p : Progress) : Except Stop Given := do
  let given ← p.settled
  (env.check given).mapError .fault
  .ok given

/-- What is asked about the graph. -/
structure StepRequest where
  kind : ElementKind
  ids : List ElementId
  label : Option String
  constraints : List Constraint

inductive Command
  | explain (redact : Bool)
  | resolve
deriving DecidableEq

/-- Arguments that are in order. -/
structure Invocation where
  graph : Option String
  config : Option String
  format : OutputFormat
  theme : Theme
  command : Command
  step : StepRequest

/-- The first of several that is there. -/
def firstGiven {α : Type} (options : List (Option α)) : Option α := options.findSome? id

/-- What two levels and the environment make: what stands behind the command
counts before what stands in front of it, and both before the environment. -/
def Invocation.make (env : Surroundings) (name : CommandName) (outer inner : Given) :
    Invocation where
  graph := firstGiven [inner.graph, outer.graph, env.graph]
  config := firstGiven [inner.config, outer.config, env.config]
  format := (firstGiven [inner.format, outer.format]).getD .text
  theme := (firstGiven [inner.theme, outer.theme]).getD .auto
  command := match name with
    | .explain => .explain inner.redact
    | .resolve => .resolve
  step :=
    ⟨if inner.edges then .edge else .vertex, inner.ids, inner.label, inner.constraints⟩

/-- Whether anything at all has been said. -/
def isSilent (env : Surroundings) (g : Given) : Bool :=
  env.graph.isNone && env.config.isNone &&
    !([.graph, .config, .format, .theme].any g.has)

/-- Reads arguments. -/
def Invocation.parse (env : Surroundings) (arguments : List String) : Except Stop Invocation := do
  let ⟨before, next⟩ ← readLevel .top {} arguments
  match next with
  | none =>
      let outer ← finishLevel env before
      .error (if isSilent env outer then .nothingGiven else .fault .commandMissing)
  | some (name, rest) =>
      let behind ← readLevel (.command name) {} rest
      let inner ← finishLevel env behind.progress
      let outer ← finishLevel env before
      .ok (.make env name outer inner)

end StartStep.CommandLine
