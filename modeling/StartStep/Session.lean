import StartStep.Fixture
import StartStep.Profile
import StartStep.Script
import StartStep.Step

/-!
# Sessions

A session is a run of requests on one graph: questions to it, changes of it,
and whole steps. Each request has an outcome and the records logged meanwhile.
Besides the graph a session keeps the counters of completed resolutions, and
for a scripted engine the calls made since they were last asked for.
-/

namespace StartStep

namespace Session

/-- What a request led to. -/
structure Outcome (α : Type) where
  result : Except Failure α
  events : List Event

/-- Something done with a step while it is put together. -/
inductive Action
  /-- Attaches the session's graph. -/
  | attach
  | warn (on : Bool)
  | labels (labels : List String)
  | has (c : Constraint)
  | plan
  | findIndex
  | resolve
  | explain
  | text
  | detailed
  | parts

inductive ActionAnswer
  | done
  | path (path : AccessPath)
  | query (query : Option IndexQuery)
  | elements (elements : List Element)
  | explanation (x : Explanation)
  | text (s : String)
  /-- The step's kind, identifiers, labels and constraints. -/
  | parts (s : Step)

inductive Request
  | indexedKeys (kind : ElementKind) (label : String)
  | classIndexes (name : String)
  | className (kind : ElementKind) (label : String)
  | lookup (kind : ElementKind) (ids : List ElementId)
  | scan (kind : ElementKind)
  | probe (index : Index) (key : String) (values : List Value)
  | plan (config : PlannerConfig) (kind : ElementKind) (ids : List ElementId)
      (constraints : List Constraint)
  | findIndex (kind : ElementKind) (constraints : List Constraint)
  | resolve (path : AccessPath) (kind : ElementKind) (constraints : List Constraint)
  | profile (reset : Bool)
  | calls
  | step (kind : ElementKind) (ids : List ElementId) (actions : List Action)
  | size
  | insert (e : Element)
  | createIndex (index : Index)
  /-- Defines an index on a label; a failure loses the graph. -/
  | withIndex (name : String) (kind : ElementKind) (label : String) (fields : List String)
  | fault (fault : FaultPoint)

inductive Answer
  | done
  | keys (keys : List String)
  | indexes (indexes : List Index)
  | name (s : String)
  | stream (items : Stream)
  | path (path : AccessPath)
  | query (query : Option IndexQuery)
  | elements (elements : List Element)
  | profile (p : Profile)
  | counts (c : CallCounts)
  | callLog (calls : List Call)
  | size (vertices edges : Nat)
  | actions (outcomes : List (Outcome ActionAnswer))

/-- The graph of a session. -/
inductive Ground
  | memory (g : MemGraph)
  /-- A scripted engine and the calls made of it. -/
  | scripted (script : Script) (log : List Call)

namespace Ground

def provider : Ground → Provider
  | .memory g => g.provider
  | .scripted script _ => script.provider

/-- The graph after some calls. -/
def after (calls : List Call) : Ground → Ground
  | .memory g => .memory { g with calls := g.calls.countAll calls }
  | .scripted script log => .scripted script (log ++ calls)

end Ground

structure State where
  ground : Ground
  profile : Profile

namespace State

/-- Work on the session's graph: its calls are noted there. -/
def perform {α β : Type} (s : State) (run : Run α) (answer : α → β) : State × Outcome β :=
  ({ s with ground := s.ground.after run.calls }, ⟨run.result.map answer, run.events⟩)

/-- A resolution on the session's graph, which the profile counts as well. -/
def performResolution {β : Type} (s : State) (run : Run Resolution)
    (answer : List Element → β) : State × Outcome β :=
  ({ s.perform run id |>.1 with profile := s.profile.recordRun run.result },
    ⟨run.result.map fun r => answer r.elements, run.events⟩)

/-- Takes every item of a stream, failures included. -/
def drained (run : Run Stream) : Run Stream := do
  let items ← run
  Run.draw items.length (.ok items)

end State

/-- Does one thing with a step. -/
def act (s : State) (step : Step) : Action → State × Step × Outcome ActionAnswer
  | .attach => (s, step.attach s.ground.provider, ⟨.ok .done, []⟩)
  | .warn on => (s, step.withConfig ⟨on⟩, ⟨.ok .done, []⟩)
  | .labels labels => (s, step.withLabels labels, ⟨.ok .done, []⟩)
  | .has c => (s, step.has c, ⟨.ok .done, []⟩)
  | .plan => let (s, o) := s.perform step.plan .path; (s, step, o)
  | .findIndex => let (s, o) := s.perform step.findIndex .query; (s, step, o)
  | .resolve => let (s, o) := s.performResolution step.resolve .elements; (s, step, o)
  | .explain => let (s, o) := s.perform step.explain .explanation; (s, step, o)
  | .text => (s, step, ⟨.ok (.text step.text), []⟩)
  | .detailed => (s, step, ⟨.ok (.text step.detailed), []⟩)
  | .parts => (s, step, ⟨.ok (.parts step), []⟩)

/-- Does things with a step one after the other. -/
def actAll (s : State) (step : Step) : List Action → State × List (Outcome ActionAnswer)
  | [] => (s, [])
  | a :: rest =>
      let (s, step, o) := act s step a
      let (s, os) := actAll s step rest
      (s, o :: os)

/-- A change of the graph in memory; a scripted engine cannot be changed. -/
def change (s : State) (f : MemGraph → MemGraph × Except Failure Unit × List Event) :
    State × Outcome Answer :=
  match s.ground with
  | .memory g =>
      let (g, result, events) := f g
      ({ s with ground := .memory g }, ⟨result.map fun _ => .done, events⟩)
  | .scripted .. => (s, ⟨.ok .done, []⟩)

/-- Answers one request. -/
def answer (s : State) : Request → State × Outcome Answer
  | .indexedKeys kind label =>
      s.perform (s.ground.provider.askIndexedKeys kind label) fun keys => .keys (sortedSet keys)
  | .classIndexes name => s.perform (s.ground.provider.askClassIndexes name) .indexes
  | .className kind label => s.perform (s.ground.provider.askClassName kind label) .name
  | .lookup kind ids => s.perform (State.drained (s.ground.provider.askLookup kind ids)) .stream
  | .scan kind => s.perform (State.drained (s.ground.provider.askScan kind)) .stream
  | .probe index key values =>
      s.perform (State.drained (s.ground.provider.askProbe index key values)) .stream
  | .plan config kind ids constraints =>
      s.perform (Planner.plan config constraints ids kind s.ground.provider) .path
  | .findIndex kind constraints =>
      s.perform (Planner.findIndex constraints kind s.ground.provider) .query
  | .resolve path kind constraints =>
      s.performResolution (Resolver.resolve path kind constraints s.ground.provider) .elements
  | .profile reset =>
      ({ s with profile := if reset then .zero else s.profile }, ⟨.ok (.profile s.profile), []⟩)
  | .calls =>
      match s.ground with
      | .memory g => (s, ⟨.ok (.counts g.calls), []⟩)
      | .scripted script log =>
          ({ s with ground := .scripted script [] }, ⟨.ok (.callLog log), []⟩)
  | .step kind ids actions =>
      let (s, outcomes) := actAll s (.new kind ids) actions
      (s, ⟨.ok (.actions outcomes), []⟩)
  | .size =>
      match s.ground with
      | .memory g => (s, ⟨.ok (.size (g.size .vertex) (g.size .edge)), []⟩)
      | .scripted .. => (s, ⟨.ok .done, []⟩)
  | .insert e => change s fun g => (g.insert e, .ok (), [])
  | .createIndex index =>
      change s fun g =>
        match g.createIndex index with
        | .ok g => (g, .ok (), [.indexCreated index])
        | .error e => (g, .error e, [])
  | .withIndex name kind label fields =>
      change s fun g =>
        match g.withIndex name kind label fields with
        | .ok g => (g, .ok (), [.indexCreated (MemGraph.labelIndex name kind label fields)])
        | .error e => (.empty, .error e, [])
  | .fault fault => change s fun g => (g.withFault fault, .ok (), [])

/-- Answers requests one after the other. -/
def answerAll (s : State) : List Request → State × List (Outcome Answer)
  | [] => (s, [])
  | r :: rest =>
      let (s, o) := answer s r
      let (s, os) := answerAll s rest
      (s, o :: os)

end Session

end StartStep
