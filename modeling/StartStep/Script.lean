import StartStep.Provider

/-!
# Engines with scripted answers

An engine whose answers are written down, whatever is asked: for trying out
how planning and resolving treat an engine's answers and failures.
-/

namespace StartStep

structure Script where
  keys : Except Failure (List String) := .ok []
  /-- The indexes of each class; other classes have none. -/
  classes : Except Failure (List (String × List Index)) := .ok []
  /-- Whether a label is its own class name. -/
  plainNames : Bool := false
  lookup : Except Failure Stream := .ok []
  scan : Except Failure Stream := .ok []
  probe : Except Failure Stream := .ok []

def Script.provider (s : Script) : Provider where
  indexedKeys _ _ := s.keys
  classIndexes name := do
    .ok (((← s.classes).find? fun c => c.1 == name).map (·.2) |>.getD [])
  className kind label :=
    if s.plainNames then label else kind.baseClass ++ "_" ++ label
  lookup _ _ := s.lookup
  scan _ := s.scan
  probe _ _ _ := s.probe

end StartStep
