import StartStep.Json.Fault

/-!
# What can fail
-/

namespace StartStep

/-- The causes for which planning, resolving or loading is given up. -/
inductive Failure
  /-- A file could not be read, for a reason of the system. -/
  | io (reason : String)
  /-- An index without fields. -/
  | fieldlessIndex
  /-- An index under a name that is taken. -/
  | indexExists (name : String)
  /-- A probe of a key that is not among the index's fields. -/
  | keyNotCovered (index key : String)
  /-- A JSON object where a property value is needed; the object's text. -/
  | objectValue (text : String)
  | notFound
  | noGraph
  /-- A membership constraint whose operand is not a list. -/
  | operandNotList (key : String)
  /-- A constraint that cannot drive an index probe. -/
  | notProbeable (key : String)
  /-- A storage engine's own failure. -/
  | storage (reason : String)
  /-- A text that could not be read as JSON of the form needed. -/
  | unreadable (fault : Json.Fault)
deriving DecidableEq

/-- The wording of a failure. -/
def Failure.message : Failure → String
  | .io reason => "IO: " ++ reason
  | .fieldlessIndex => "invalid argument: index requires at least one field"
  | .indexExists name => "invalid argument: index '" ++ name ++ "' already exists"
  | .keyNotCovered index key =>
      "invalid argument: index '" ++ index ++ "' does not cover '" ++ key ++ "'"
  | .objectValue text => "invalid argument: JSON object " ++ text ++ " is not a property value"
  | .notFound => "not found"
  | .noGraph => "graph step has no graph attached"
  | .operandNotList key =>
      "constraint on '" ++ key ++ "' requires a list operand for a membership predicate"
  | .notProbeable key =>
      "constraint on '" ++ key ++ "' requires an eq or within predicate to probe an index"
  | .storage reason => "storage: " ++ reason
  | .unreadable _ => "serde"

end StartStep
