import StartStep.Double

/-!
# TOML documents

A document as a tree. How a table was written, under a header, by dotted keys
or between braces, no longer shows in it, and an array of tables is an array.
-/

namespace StartStep

inductive Toml
  | string (value : String)
  | integer (value : Int)
  | float (value : Double)
  | boolean (value : Bool)
  /-- A date, a time of day, or both. -/
  | moment
  | array (items : List Toml)
  | table (fields : List (String × Toml))

instance : Inhabited Toml := ⟨.table []⟩

namespace Toml

/-- The value of a key. -/
def field? (key : String) (fields : List (String × Toml)) : Option Toml :=
  (fields.find? fun f => f.1 == key).map (·.2)

end Toml

end StartStep
