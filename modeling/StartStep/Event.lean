import StartStep.AccessPath

/-!
# Log records

What is logged, as data. A record has two written forms: the plain one, and
the one with its origin in which text fields are quoted.
-/

namespace StartStep

/-- Severity; the more severe comes first. -/
inductive LogLevel
  | error
  | warn
  | info
  | debug
  | trace
deriving DecidableEq

namespace LogLevel

def name : LogLevel → String
  | .error => "ERROR"
  | .warn => "WARN"
  | .info => "INFO"
  | .debug => "DEBUG"
  | .trace => "TRACE"

/-- How much is let through by a threshold at this level. -/
def verbosity : LogLevel → Nat
  | .error => 1
  | .warn => 2
  | .info => 3
  | .debug => 4
  | .trace => 5

end LogLevel

inductive Event
  | idsChosen (kind : ElementKind) (ids : Nat)
  | scanChosen (kind : ElementKind) (constraints : Nat)
  /-- A key is said to be indexed and no index of the class covers it. -/
  | indexMissed (className key : String)
  | indexChosen (index : Index) (key : String) (values : Nat)
  | resolved (path : String) (kind : ElementKind) (candidates kept : Nat)
  | indexCreated (index : Index)
  | graphOpened (graph : String) (config : Option String)
deriving DecidableEq

namespace Event

def level : Event → LogLevel
  | .scanChosen .. | .indexMissed .. => .warn
  | _ => .debug

/-- The part of the program that logs the record. -/
def origin : Event → String
  | .idsChosen .. | .scanChosen .. | .indexMissed .. | .indexChosen .. => "penumbra::query::planner"
  | .resolved .. => "penumbra::query::resolver"
  | .indexCreated _ => "penumbra::storage::memory"
  | .graphOpened .. => "penumbra"

def message : Event → String
  | .idsChosen .. => "planner.ids"
  | .scanChosen .. => "planner.full_scan"
  | .indexMissed .. => "planner.index_miss"
  | .indexChosen .. => "planner.index_selected"
  | .resolved .. => "resolver.resolved"
  | .indexCreated _ => "memgraph.create_index"
  | .graphOpened .. => "cli.graph.load"

/-- The content of a field: text, which the form with origins quotes, or the
written form of something else. -/
inductive Field
  | text (content : String)
  | shown (content : String)

def fields : Event → List (String × Field)
  | .idsChosen kind ids => [("kind", .shown kind.name), ("ids", .shown (toString ids))]
  | .scanChosen kind constraints =>
      [("kind", .shown kind.name), ("constraints", .shown (toString constraints))]
  | .indexMissed className key => [("class", .shown className), ("key", .text key)]
  | .indexChosen index key values =>
      [("index", .shown index.text), ("key", .text key), ("values", .shown (toString values))]
  | .resolved path kind candidates kept =>
      [("path", .text path), ("kind", .shown kind.name),
        ("candidates", .shown (toString candidates)), ("kept", .shown (toString kept))]
  | .indexCreated index => [("index", .shown index.text)]
  | .graphOpened graph config =>
      [("graph", .shown graph),
        ("config", .shown (match config with
          | some path => "Some(" ++ Text.quoted path ++ ")"
          | none => "None"))]

/-- The fields of a record, each behind a blank. -/
def fieldsText (write : Field → String) (e : Event) : String :=
  String.join (e.fields.map fun f => " " ++ f.1 ++ "=" ++ write f.2)

/-- The plain form of a record. -/
def text (e : Event) : String :=
  e.level.name ++ " " ++ e.message ++ e.fieldsText fun
    | .text s => s
    | .shown s => s

/-- The form of a record with its origin. -/
def textWithOrigin (e : Event) : String :=
  e.level.name ++ " " ++ e.origin ++ ": " ++ e.message ++ e.fieldsText fun
    | .text s => Text.quoted s
    | .shown s => s

end Event

end StartStep
