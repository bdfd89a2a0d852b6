import StartStep.Element
import StartStep.Index

/-!
# Access paths

The ways to fetch the candidates of a step: by their identifiers, by one
probe of one index, or by reading everything.
-/

namespace StartStep

/-- One probe of an index: the key and the values to look for under it. -/
structure IndexQuery where
  index : Index
  key : String
  values : List Value

def IndexQuery.text (q : IndexQuery) : String :=
  "IndexQuery(index=" ++ q.index.text ++ ", " ++ q.key ++ "=" ++ (Value.list q.values).text ++ ")"

inductive AccessPath
  | byId (ids : List ElementId)
  | byIndex (query : IndexQuery)
  | fullScan

namespace AccessPath

/-- The name of the operation in plans and log records. -/
def name : AccessPath → String
  | .byId _ => "ById"
  | .byIndex _ => "IndexProbe"
  | .fullScan => "FullScan"

def isIndex : AccessPath → Bool
  | .byIndex _ => true
  | _ => false

def text : AccessPath → String
  | .byId ids => "ById(" ++ idsText ids ++ ")"
  | .byIndex query => query.text
  | .fullScan => "FullScan"

end AccessPath

end StartStep
