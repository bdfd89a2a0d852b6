import StartStep.Constraint
import StartStep.Event

/-!
# Storage engines and what is done with them

A step knows a storage engine only by its answers: three questions about
indexes, and three ways to fetch elements. Fetching either fails at once or
gives a stream, whose items are elements and failures.

The answers are fixed while a step is planned and resolved. What was asked,
how many items were taken from a stream, and what was logged on the way are
part of the outcome (`Run`), so that they can be spoken about.
-/

namespace StartStep

/-- What comes out of an engine, item by item. -/
abbrev Stream := List (Except Failure Element)

structure Provider where
  /-- The keys indexed for elements of a kind with a label. -/
  indexedKeys : ElementKind → String → Except Failure (List String)
  /-- The indexes of a class, in order of definition. -/
  classIndexes : String → Except Failure (List Index)
  /-- The internal name of the class of elements of a kind with a label. -/
  className : ElementKind → String → String
  /-- The elements with some identifiers; unknown ones are passed over. -/
  lookup : ElementKind → List ElementId → Except Failure Stream
  /-- Every element of a kind. -/
  scan : ElementKind → Except Failure Stream
  /-- The elements that an index finds under a key for some values. -/
  probe : Index → String → List Value → Except Failure Stream

/-- Something asked of an engine, or an item taken from its stream. -/
inductive Call
  | indexedKeys (kind : ElementKind) (label : String)
  | classIndexes (className : String)
  | className (kind : ElementKind) (label : String)
  | lookup (kind : ElementKind) (ids : List ElementId)
  | scan (kind : ElementKind)
  | probe (index : Index) (key : String) (values : List Value)
  | pull

def Call.text : Call → String
  | .indexedKeys kind label => "indexed_keys " ++ kind.name ++ " " ++ label
  | .classIndexes name => "class_indexes " ++ name
  | .className kind label => "class_name " ++ kind.name ++ " " ++ label
  | .lookup kind ids => "lookup " ++ kind.name ++ " " ++ idsText ids
  | .scan kind => "scan " ++ kind.name
  | .probe index key values =>
      "probe " ++ index.text ++ " " ++ key ++ " " ++ (Value.list values).text
  | .pull => "pull"

/-- The outcome of work on an engine: what was asked, what was logged, and the
result. What was done before a failure stays done. -/
structure Run (α : Type) where
  calls : List Call
  events : List Event
  result : Except Failure α

namespace Run

protected def pure {α : Type} (a : α) : Run α := ⟨[], [], .ok a⟩

protected def bind {α β : Type} (x : Run α) (f : α → Run β) : Run β :=
  match x.result with
  | .error e => ⟨x.calls, x.events, .error e⟩
  | .ok a => ⟨x.calls ++ (f a).calls, x.events ++ (f a).events, (f a).result⟩

instance : Monad Run where
  pure := Run.pure
  bind := Run.bind

/-- A result that needs no engine. -/
def ofExcept {α : Type} (result : Except Failure α) : Run α := ⟨[], [], result⟩

/-- One question and its answer. -/
def ask {α : Type} (call : Call) (answer : Except Failure α) : Run α := ⟨[call], [], answer⟩

def log (e : Event) : Run Unit := ⟨[], [e], .ok ()⟩

/-- A result for which a number of items were taken from a stream. -/
def draw {α : Type} (pulls : Nat) (result : Except Failure α) : Run α :=
  ⟨List.replicate pulls .pull, [], result⟩

end Run

namespace Provider

def askIndexedKeys (p : Provider) (kind : ElementKind) (label : String) : Run (List String) :=
  .ask (.indexedKeys kind label) (p.indexedKeys kind label)

def askClassIndexes (p : Provider) (className : String) : Run (List Index) :=
  .ask (.classIndexes className) (p.classIndexes className)

def askClassName (p : Provider) (kind : ElementKind) (label : String) : Run String :=
  .ask (.className kind label) (.ok (p.className kind label))

def askLookup (p : Provider) (kind : ElementKind) (ids : List ElementId) : Run Stream :=
  .ask (.lookup kind ids) (p.lookup kind ids)

def askScan (p : Provider) (kind : ElementKind) : Run Stream :=
  .ask (.scan kind) (p.scan kind)

def askProbe (p : Provider) (index : Index) (key : String) (values : List Value) : Run Stream :=
  .ask (.probe index key values) (p.probe index key values)

end Provider

end StartStep
