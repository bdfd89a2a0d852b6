import StartStep.Planner
import StartStep.Toml.Reader

/-!
# Settings of the command line

A settings file may name a graph to fall back on and say whether reading
everything is worth a warning. Unknown keys and sections are passed over. A
section may also be written as an array, of which the first item is the value
of its one key.
-/

namespace StartStep.CommandLine

structure Settings where
  graph : Option String := none
  warnOnFullScan : Option Bool := none
deriving DecidableEq

namespace Settings

def ofString : Toml → Option String
  | .string s => some s
  | _ => none

def ofBoolean : Toml → Option Bool
  | .boolean b => some b
  | _ => none

/-- The value of a section's one key, if it is given. -/
def ofSection {α : Type} (key : String) (read : Toml → Option α) : Toml → Option (Option α)
  | .table fields =>
      match Toml.field? key fields with
      | some v => some <$> read v
      | none => some none
  | .array (v :: _) => some <$> read v
  | .moment => some none
  | _ => none

/-- The settings a document makes. -/
def ofToml : Toml → Option Settings
  | .table fields => do
      let graph ← ofSection "default" ofString ((Toml.field? "graph" fields).getD (.table []))
      let warnOnFullScan ←
        ofSection "warn_on_full_scan" ofBoolean ((Toml.field? "planner" fields).getD (.table []))
      some ⟨graph, warnOnFullScan⟩
  | _ => none

/-- The settings a text holds. -/
def parse (s : String) : Option Settings := do ofToml (← Toml.parse s)

def plannerConfig (s : Settings) : PlannerConfig := ⟨s.warnOnFullScan.getD true⟩

end Settings

end StartStep.CommandLine
