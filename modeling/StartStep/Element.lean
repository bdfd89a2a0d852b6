import StartStep.SortedMap
import StartStep.Value

/-!
# Vertices and edges
-/

namespace StartStep

/-- The identifier of an element. A vertex and an edge may share one. -/
abbrev ElementId := UInt64

inductive ElementKind
  | vertex
  | edge
deriving DecidableEq

namespace ElementKind

def name : ElementKind → String
  | .vertex => "vertex"
  | .edge => "edge"

/-- The kind's name in the detailed form of a step. -/
def detailed : ElementKind → String
  | .vertex => "Vertex"
  | .edge => "Edge"

def ofName : String → Option ElementKind
  | "vertex" => some .vertex
  | "edge" => some .edge
  | _ => none

/-- The class that every class of the kind extends. -/
def baseClass : ElementKind → String
  | .vertex => "V"
  | .edge => "E"

end ElementKind

/-- A vertex or an edge. -/
structure Element where
  id : ElementId
  kind : ElementKind
  label : String
  properties : SortedMap String Value
  /-- The vertex an edge leaves. -/
  outVertex : Option ElementId
  /-- The vertex an edge enters. -/
  inVertex : Option ElementId

instance : Inhabited Element := ⟨⟨0, .vertex, "", .empty, none, none⟩⟩

namespace Element

def property? (e : Element) (key : String) : Option Value := e.properties.get? key

/-- The text of an element: its identifier, and for an edge with both ends
these and its label. -/
def text (e : Element) : String :=
  match e.kind, e.outVertex, e.inVertex with
  | .vertex, _, _ => "v[" ++ toString e.id.toNat ++ "]"
  | .edge, some out, some into =>
      "e[" ++ toString e.id.toNat ++ "][" ++ toString out.toNat ++ "-" ++ e.label ++ "->" ++
        toString into.toNat ++ "]"
  | .edge, _, _ => "e[" ++ toString e.id.toNat ++ "]"

end Element

/-- Identifiers between brackets. -/
def idsText (ids : List ElementId) : String := Text.bracketed (ids.map fun id => toString id.toNat)

end StartStep
