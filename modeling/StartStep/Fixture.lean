import StartStep.MemGraph
import StartStep.Record
import StartStep.Value.Plain

/-!
# Graphs in files

A fixture lists vertices, edges and index definitions; properties are plain
JSON. A graph is built from it in the order vertices, edges, indexes.
-/

namespace StartStep

open Json

structure VertexRecord where
  id : ElementId
  label : String
  properties : SortedMap String Json

structure EdgeRecord where
  id : ElementId
  label : String
  out : ElementId
  into : ElementId
  properties : SortedMap String Json

structure IndexRecord where
  name : String
  kind : ElementKind
  label : String
  fields : List String

structure Fixture where
  vertices : List VertexRecord
  edges : List EdgeRecord
  indexes : List IndexRecord

/-! ## Reading -/

/-- Plain JSON in normal form. -/
def decodePlain : Decoder Json := fun room d => Json.normal <$> decodeJson room d

def VertexRecord.form : RecordForm VertexRecord where
  names := ["id", "label", "properties"]
  required := ["id", "label"]
  blank := ⟨0, "", .empty⟩
  decode name room d r :=
    match name with
    | "id" => (fun id => { r with id }) <$> decodeUInt64 room d
    | "label" => (fun label => { r with label }) <$> decodeString room d
    | _ => (fun properties => { r with properties }) <$> decodeMap decodePlain room d

def EdgeRecord.form : RecordForm EdgeRecord where
  names := ["id", "label", "out", "in", "properties"]
  required := ["id", "label", "out", "in"]
  blank := ⟨0, "", 0, 0, .empty⟩
  decode name room d r :=
    match name with
    | "id" => (fun id => { r with id }) <$> decodeUInt64 room d
    | "label" => (fun label => { r with label }) <$> decodeString room d
    | "out" => (fun out => { r with out }) <$> decodeUInt64 room d
    | "in" => (fun into => { r with into }) <$> decodeUInt64 room d
    | _ => (fun properties => { r with properties }) <$> decodeMap decodePlain room d

def IndexRecord.form : RecordForm IndexRecord where
  names := ["name", "kind", "label", "fields"]
  required := ["name", "kind", "label", "fields"]
  blank := ⟨"", .vertex, "", []⟩
  decode name room d r :=
    match name with
    | "name" => (fun name => { r with name }) <$> decodeString room d
    | "kind" => (fun kind => { r with kind }) <$> ElementKind.decode room d
    | "label" => (fun label => { r with label }) <$> decodeString room d
    | _ => (fun fields => { r with fields }) <$> decodeList decodeString room d

namespace Fixture

def empty : Fixture := ⟨[], [], []⟩

def form : RecordForm Fixture where
  names := ["vertices", "edges", "indexes"]
  required := []
  blank := empty
  decode name room d f :=
    match name with
    | "vertices" =>
        (fun vertices => { f with vertices }) <$> decodeList VertexRecord.form.read room d
    | "edges" => (fun edges => { f with edges }) <$> decodeList EdgeRecord.form.read room d
    | _ => (fun indexes => { f with indexes }) <$> decodeList IndexRecord.form.read room d

def decode : Decoder Fixture := form.read

/-- The fixture a text holds. -/
def parse (s : String) : Except Failure Fixture := (decodeText decode s).mapError .unreadable

end Fixture

/-! ## Writing -/

def plainJson (properties : SortedMap String Json) : Json := .object properties.entries

def VertexRecord.json (r : VertexRecord) : Json :=
  .object [("id", idJson r.id), ("label", .string r.label),
    ("properties", plainJson r.properties)]

def EdgeRecord.json (r : EdgeRecord) : Json :=
  .object [("id", idJson r.id), ("label", .string r.label), ("out", idJson r.out),
    ("in", idJson r.into), ("properties", plainJson r.properties)]

def IndexRecord.json (r : IndexRecord) : Json :=
  .object [("name", .string r.name), ("kind", r.kind.json), ("label", .string r.label),
    ("fields", .strings r.fields)]

def Fixture.json (f : Fixture) : Json :=
  .object [("vertices", .array (f.vertices.map VertexRecord.json)),
    ("edges", .array (f.edges.map EdgeRecord.json)),
    ("indexes", .array (f.indexes.map IndexRecord.json))]

/-! ## Building the graph -/

/-- The values of plain properties; the first that has none is refused. -/
def convertProperties (properties : SortedMap String Json) :
    Except Failure (SortedMap String Value) := do
  let entries ← properties.entries.mapM fun e => do .ok (e.1, ← Value.ofJson e.2)
  .ok (.ofList entries)

def VertexRecord.element (r : VertexRecord) : Except Failure Element := do
  .ok ⟨r.id, .vertex, r.label, ← convertProperties r.properties, none, none⟩

def EdgeRecord.element (r : EdgeRecord) : Except Failure Element := do
  .ok ⟨r.id, .edge, r.label, ← convertProperties r.properties, some r.out, some r.into⟩

def IndexRecord.index (r : IndexRecord) : Index :=
  MemGraph.labelIndex r.name r.kind r.label r.fields

namespace Fixture

/-- Stores elements one after the other, each being worked out when its turn comes. -/
def insertAll (g : MemGraph) : List (Except Failure Element) → Except Failure MemGraph
  | [] => .ok g
  | e :: rest => do insertAll (g.insert (← e)) rest

/-- Defines indexes one after the other. -/
def createAll (g : MemGraph) : List Index → Run MemGraph
  | [] => pure g
  | index :: rest => do
      let g ← Run.ofExcept (g.createIndex index)
      Run.log (.indexCreated index)
      createAll g rest

/-- The graph of a fixture, with the records of its index definitions. -/
def build (f : Fixture) : Run MemGraph := do
  let g ← Run.ofExcept (insertAll .empty (f.vertices.map VertexRecord.element))
  let g ← Run.ofExcept (insertAll g (f.edges.map EdgeRecord.element))
  createAll g (f.indexes.map IndexRecord.index)

end Fixture

end StartStep
