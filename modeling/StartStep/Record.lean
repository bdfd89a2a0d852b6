import StartStep.AccessPath
import StartStep.Constraint
import StartStep.Value.Tagged

/-!
# JSON forms of the domain

What is written of constraints, elements, indexes and access paths, and how
the first three are read back.
-/

namespace StartStep

open Json

def ElementKind.json (k : ElementKind) : Json := .string k.name

def ElementKind.decode : Decoder ElementKind := decodeChoice ElementKind.ofName

def Predicate.json (p : Predicate) : Json := .string p.jsonName

def Predicate.decode : Decoder Predicate := decodeChoice Predicate.ofJsonName

def idJson (id : ElementId) : Json := .natural id.toNat

def valuesJson (values : List Value) : Json := .array (values.map Value.tagged)

/-! ## Constraints -/

def Constraint.json (c : Constraint) : Json :=
  .object [("key", .string c.key), ("predicate", c.predicate.json), ("value", c.value.tagged)]

def Constraint.form : RecordForm Constraint where
  names := ["key", "predicate", "value"]
  required := ["key", "predicate", "value"]
  blank := default
  decode name room d c :=
    match name with
    | "key" => (fun key => { c with key }) <$> decodeString room d
    | "predicate" => (fun predicate => { c with predicate }) <$> Predicate.decode room d
    | _ => (fun value => { c with value }) <$> Value.decode room d

def Constraint.decode : Decoder Constraint := Constraint.form.read

def constraintsJson (cs : List Constraint) : Json := .array (cs.map Constraint.json)

/-! ## Elements -/

def propertiesJson (properties : SortedMap String Value) : Json :=
  .object (properties.entries.map fun e => (e.1, e.2.tagged))

def Element.json (e : Element) : Json :=
  let ending (name : String) : Option ElementId → List (String × Json)
    | some id => [(name, idJson id)]
    | none => []
  .object ([("id", idJson e.id), ("kind", e.kind.json), ("label", .string e.label),
    ("properties", propertiesJson e.properties)] ++ ending "out_vertex" e.outVertex ++
      ending "in_vertex" e.inVertex)

def Element.form : RecordForm Element where
  names := ["id", "kind", "label", "properties", "out_vertex", "in_vertex"]
  required := ["id", "kind", "label"]
  blank := default
  decode name room d e :=
    match name with
    | "id" => (fun id => { e with id }) <$> decodeUInt64 room d
    | "kind" => (fun kind => { e with kind }) <$> ElementKind.decode room d
    | "label" => (fun label => { e with label }) <$> decodeString room d
    | "properties" =>
        (fun properties => { e with properties }) <$> decodeMap Value.decode room d
    | "out_vertex" =>
        (fun outVertex => { e with outVertex }) <$> decodeOption decodeUInt64 room d
    | _ => (fun inVertex => { e with inVertex }) <$> decodeOption decodeUInt64 room d

def Element.decode : Decoder Element := Element.form.read

/-! ## Indexes and access paths -/

def Index.json (i : Index) : Json :=
  .object [("name", .string i.name), ("class_name", .string i.className),
    ("fields", .strings i.fields)]

def Index.form : RecordForm Index where
  names := ["name", "class_name", "fields"]
  required := ["name", "class_name", "fields"]
  blank := default
  decode name room d i :=
    match name with
    | "name" => (fun name => { i with name }) <$> decodeString room d
    | "class_name" => (fun className => { i with className }) <$> decodeString room d
    | _ => (fun fields => { i with fields }) <$> decodeList decodeString room d

def Index.decode : Decoder Index := Index.form.read

def IndexQuery.fields (q : IndexQuery) : List (String × Json) :=
  [("index", q.index.json), ("key", .string q.key), ("values", valuesJson q.values)]

def IndexQuery.json (q : IndexQuery) : Json := .object q.fields

def AccessPath.json : AccessPath → Json
  | .byId ids => .object [("path", .string "by_id"), ("ids", .array (ids.map idJson))]
  | .byIndex query => .object (("path", .string "by_index") :: query.fields)
  | .fullScan => .object [("path", .string "full_scan")]

end StartStep
