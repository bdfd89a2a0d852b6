import StartStep.Provider

/-!
# Choosing an access path

Identifiers given explicitly are looked up. Otherwise the class label that
the constraints name is asked for its indexed keys; the first equality or
membership constraint on one of them drives the probe, and the first index of
the class that covers its key is probed. If any of these is missing,
everything is read. Constraints that do not take part are left to filtering.
-/

namespace StartStep

structure PlannerConfig where
  /-- Whether reading everything is worth a warning. -/
  warnOnFullScan : Bool := true
deriving DecidableEq

namespace Planner

/-- The constraint that drives an index probe. -/
def driver? (constraints : List Constraint) (indexedKeys : List String) : Option Constraint :=
  constraints.find? fun c => c.predicate.isIndexEligible && indexedKeys.contains c.key

/-- The index probe that serves the constraints, whatever identifiers are given. -/
def findIndex (constraints : List Constraint) (kind : ElementKind) (p : Provider) :
    Run (Option IndexQuery) :=
  match classLabel constraints with
  | none => pure none
  | some label => do
      let keys ← p.askIndexedKeys kind label
      match driver? constraints keys with
      | none => pure none
      | some driver => do
          let values ← Run.ofExcept driver.probeValues
          let className ← p.askClassName kind label
          let indexes ← p.askClassIndexes className
          match indexes.find? (·.covers driver.key) with
          | none => do
              Run.log (.indexMissed className driver.key)
              pure none
          | some index => do
              Run.log (.indexChosen index driver.key values.length)
              pure (some ⟨index, driver.key, values⟩)

/-- The access path of one resolution. -/
def plan (config : PlannerConfig) (constraints : List Constraint) (ids : List ElementId)
    (kind : ElementKind) (p : Provider) : Run AccessPath :=
  if ids.isEmpty then do
    match ← findIndex constraints kind p with
    | some query => pure (.byIndex query)
    | none => do
        if config.warnOnFullScan then
          Run.log (.scanChosen kind constraints.length)
        pure .fullScan
  else do
    Run.log (.idsChosen kind ids.length)
    pure (.byId ids)

end Planner

end StartStep
