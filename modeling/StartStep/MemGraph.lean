import StartStep.Provider

/-!
# A graph in memory

Vertices and edges are kept by identifier, each kind apart, and indexes in
the order of their definition. An index holds no entries of its own: a probe
reads the elements of the index's class. Calls are counted in 64-bit words
that wrap, and one primitive can be made to fail.
-/

namespace StartStep

/-- What is made to fail. -/
inductive FaultPoint
  | lookup
  | scan
  | probe
  | metadata
  /-- Every stream fails after some elements. -/
  | midStream (after : Nat)
deriving DecidableEq

/-- Counts of calls by primitive. -/
structure CallCounts where
  metadata : UInt64
  lookups : UInt64
  scans : UInt64
  probes : UInt64
deriving DecidableEq

namespace CallCounts

def zero : CallCounts := ⟨0, 0, 0, 0⟩

/-- Counts one call. Naming a class and taking an item are free. -/
def count (c : CallCounts) : Call → CallCounts
  | .indexedKeys .. | .classIndexes _ => { c with metadata := c.metadata + 1 }
  | .lookup .. => { c with lookups := c.lookups + 1 }
  | .scan _ => { c with scans := c.scans + 1 }
  | .probe .. => { c with probes := c.probes + 1 }
  | .className .. | .pull => c

def countAll (c : CallCounts) (calls : List Call) : CallCounts := calls.foldl count c

theorem countAll_append (c : CallCounts) (calls calls' : List Call) :
    c.countAll (calls ++ calls') = (c.countAll calls).countAll calls' :=
  List.foldl_append

end CallCounts

structure MemGraph where
  vertices : SortedMap ElementId Element
  edges : SortedMap ElementId Element
  indexes : List Index
  fault : Option FaultPoint
  calls : CallCounts

namespace MemGraph

def empty : MemGraph := ⟨.empty, .empty, [], none, .zero⟩

/-- The elements of a kind by identifier. -/
def elements (g : MemGraph) : ElementKind → SortedMap ElementId Element
  | .vertex => g.vertices
  | .edge => g.edges

def size (g : MemGraph) (kind : ElementKind) : Nat := (g.elements kind).size

def isEmpty (g : MemGraph) : Bool := g.vertices.isEmpty && g.edges.isEmpty

/-- Stores an element in place of one with its kind and identifier. -/
def insert (g : MemGraph) (e : Element) : MemGraph :=
  match e.kind with
  | .vertex => { g with vertices := g.vertices.insert e.id e }
  | .edge => { g with edges := g.edges.insert e.id e }

/-- Defines an index. It needs a field and a name that is not taken. -/
def createIndex (g : MemGraph) (index : Index) : Except Failure MemGraph :=
  if index.fields.isEmpty then .error .fieldlessIndex
  else if g.indexes.any (·.name == index.name) then .error (.indexExists index.name)
  else .ok { g with indexes := g.indexes ++ [index] }

/-- The internal name of a class: the base class keeps its name, any other
label is put behind it. -/
def className (kind : ElementKind) (label : String) : String :=
  if label = kind.baseClass then kind.baseClass else kind.baseClass ++ "_" ++ label

/-- The index that `withIndex` defines. -/
def labelIndex (name : String) (kind : ElementKind) (label : String) (fields : List String) :
    Index :=
  ⟨name, className kind label, fields⟩

def withIndex (g : MemGraph) (name : String) (kind : ElementKind) (label : String)
    (fields : List String) : Except Failure MemGraph :=
  g.createIndex (labelIndex name kind label fields)

def withFault (g : MemGraph) (fault : FaultPoint) : MemGraph := { g with fault := some fault }

/-- Fails if a primitive is made to. -/
def guardFault (g : MemGraph) (point : FaultPoint) (name : String) : Except Failure Unit :=
  if g.fault = some point then .error (.storage ("injected " ++ name ++ " failure")) else .ok ()

/-- Elements as a stream, cut off if streams are made to fail. -/
def stream (g : MemGraph) (elements : List Element) : Stream :=
  match g.fault with
  | some (.midStream after) =>
      (elements.take after).map .ok ++ [.error (.storage "injected mid-stream failure")]
  | _ => elements.map .ok

/-- The indexes of a class. -/
def indexesOf (g : MemGraph) (name : String) : List Index :=
  g.indexes.filter (·.className == name)

/-- Whether an index finds an element under a key for a value. -/
def isHit (index : Index) (key : String) (value : Value) (e : Element) : Bool :=
  className e.kind e.label == index.className &&
    match e.property? key with
    | some actual => actual.looseEq value
    | none => false

/-- What a probe finds: for each value in turn, vertices before edges. -/
def hits (g : MemGraph) (index : Index) (key : String) (values : List Value) : List Element :=
  values.flatMap fun value =>
    (g.vertices.values ++ g.edges.values).filter (isHit index key value)

/-- The graph's answers. -/
def provider (g : MemGraph) : Provider where
  indexedKeys kind label := do
    g.guardFault .metadata "Metadata"
    .ok (sortedSet ((g.indexesOf (className kind label)).flatMap (·.fields)))
  classIndexes name := do
    g.guardFault .metadata "Metadata"
    .ok (g.indexesOf name)
  className := className
  lookup kind ids := do
    g.guardFault .lookup "Lookup"
    .ok (g.stream (ids.filterMap (g.elements kind).get?))
  scan kind := do
    g.guardFault .scan "Scan"
    .ok (g.stream (g.elements kind).values)
  probe index key values := do
    g.guardFault .probe "Probe"
    if !g.indexes.any (·.name == index.name) then .error .notFound
    else if !index.covers key then .error (.keyNotCovered index.name key)
    else .ok (g.stream (g.hits index key values))

/-- The graph after some work on it: its contents as before, the calls counted. -/
def after {α : Type} (g : MemGraph) (run : Run α) : MemGraph :=
  { g with calls := g.calls.countAll run.calls }

end MemGraph

end StartStep
