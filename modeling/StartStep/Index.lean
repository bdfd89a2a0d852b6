/-!
# Indexes
-/

namespace StartStep

/-- An index over the values that elements of one class have under some keys. -/
structure Index where
  name : String
  /-- The internal name of the class. -/
  className : String
  fields : List String
deriving DecidableEq

instance : Inhabited Index := ⟨⟨"", "", []⟩⟩

namespace Index

/-- Whether a key is one of the indexed ones. -/
def covers (i : Index) (key : String) : Bool := i.fields.contains key

def text (i : Index) : String :=
  i.name ++ "(" ++ i.className ++ "." ++ ",".intercalate i.fields ++ ")"

end Index

end StartStep
