/-!
# What can be wrong with a JSON text
-/

namespace StartStep.Json

/-- The kinds of faults a reader meets. -/
inductive Fault
  /-- The text ends where more is needed. -/
  | truncated
  /-- The text is not JSON. -/
  | malformed
  /-- The text is JSON, and not of the form asked for. -/
  | mismatched
deriving DecidableEq, Repr

end StartStep.Json
