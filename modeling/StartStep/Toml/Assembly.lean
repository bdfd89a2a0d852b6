import StartStep.Toml

/-!
# Putting a TOML document together

A document is a run of statements: headers, which name the table that what
follows belongs to, and assignments. A table may be defined once. What a table
owes its existence to decides what may still be done with it: a table that a
longer header implied may get a header of its own, a table made by dotted keys
may get more dotted keys, and a value may get nothing at all.
-/

namespace StartStep.Toml

/-- What a table owes its existence to. -/
inductive Origin
  /-- A header of its own, or braces, or being the whole document. -/
  | defined
  /-- A header that leads through it. -/
  | implied
  /-- Dotted keys that lead through it. -/
  | dotted
deriving DecidableEq

/-- What stands under a key while the document is read. -/
inductive Entry
  | value (v : Toml)
  | table (origin : Origin) (fields : List (String × Entry))
  /-- An array of tables: those before the last, and the last, which is open. -/
  | tables (earlier : List Toml) (last : List (String × Entry))

instance : Inhabited Entry := ⟨.value default⟩

abbrev Fields := List (String × Entry)

/-- What stands under a key. -/
def lookup? (fields : Fields) (key : String) : Option Entry :=
  (fields.find? fun f => f.1 == key).map (·.2)

/-- Puts something under a key, in the place of what stood there. -/
def place (fields : Fields) (key : String) (entry : Entry) : Fields :=
  match fields with
  | [] => [(key, entry)]
  | f :: rest => if f.1 = key then (key, entry) :: rest else f :: place rest key entry

mutual

/-- An entry as it is read in the end. -/
def Entry.close : Entry → Toml
  | .value v => v
  | .table _ fields => .table (closeFields fields)
  | .tables earlier last => .array (earlier ++ [.table (closeFields last)])

def closeFields : List (String × Entry) → List (String × Toml)
  | [] => []
  | (key, entry) :: rest => (key, entry.close) :: closeFields rest

end

/-- Changes the table to which a path leads, making the tables on the way that
are missing. In an array of tables the path goes on in the last one. Dotted
keys do not lead into tables that have been defined. -/
def alter (isDotted : Bool) (change : Origin → Fields → Option Fields) :
    List String → Origin → Fields → Option Fields
  | [], origin, fields => change origin fields
  | key :: path, _, fields =>
      match lookup? fields key with
      | none =>
          let origin := if isDotted then .dotted else .implied
          do some (place fields key (.table origin (← alter isDotted change path origin [])))
      | some (.value _) => none
      | some (.table origin inner) =>
          if isDotted && origin = .defined then none
          else do
            some (place fields key (.table origin (← alter isDotted change path origin inner)))
      | some (.tables earlier last) => do
          some (place fields key (.tables earlier (← alter isDotted change path .defined last)))

/-- Assigns a value under a dotted path and a key, both seen from an open table. -/
def assign (path : List String) (key : String) (v : Toml) (origin : Origin) (fields : Fields) :
    Option Fields :=
  alter true
    (fun origin fields =>
      if (origin == .dotted) == path.isEmpty then none
      else if (lookup? fields key).isSome then none
      else some (place fields key (.value v)))
    path origin fields

/-- Opens the table of a header. -/
def openTable (key : String) (fields : Fields) : Option Fields :=
  match lookup? fields key with
  | none => some (place fields key (.table .defined []))
  | some (.table .implied inner) => some (place fields key (.table .defined inner))
  | some _ => none

/-- Opens a further table of an array of tables. -/
def openNextTable (key : String) (fields : Fields) : Option Fields :=
  match lookup? fields key with
  | none => some (place fields key (.tables [] []))
  | some (.tables earlier last) =>
      some (place fields key (.tables (earlier ++ [.table (closeFields last)]) []))
  | some _ => none

/-- The table between braces, from its assignments. -/
def inlineTable (assignments : List (List String × String × Toml)) : Option Toml := do
  let fields ← assignments.foldlM
    (fun fields (path, key, v) => assign path key v .defined fields) []
  some (.table (closeFields fields))

inductive Statement
  | assignment (path : List String) (key : String) (value : Toml)
  | header (path : List String) (key : String)
  /-- The header of one table of an array. -/
  | arrayHeader (path : List String) (key : String)

/-- The document that statements make, the open table being given by its path. -/
def assemble : List String → Fields → List Statement → Option Toml
  | _, fields, [] => some (.table (closeFields fields))
  | here, fields, .assignment path key v :: rest => do
      assemble here (← alter false (assign path key v) here .defined fields) rest
  | _, fields, .header path key :: rest => do
      let fields ← alter false (fun _ => openTable key) path .defined fields
      assemble (path ++ [key]) fields rest
  | _, fields, .arrayHeader path key :: rest => do
      let fields ← alter false (fun _ => openNextTable key) path .defined fields
      assemble (path ++ [key]) fields rest

end StartStep.Toml
