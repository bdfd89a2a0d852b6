import StartStep.Provider

/-!
# Following an access path

Whatever the path, every candidate is tested against all constraints, and the
first failure, of the engine or of a constraint, ends the resolution without a
result. A lookup by identifiers is drained before the first candidate is
tested; the other paths test each candidate as it comes.
-/

namespace StartStep

/-- A completed resolution. -/
structure Resolution where
  path : AccessPath
  /-- How many elements were read. -/
  candidates : Nat
  /-- Those that satisfy the constraints, in the order in which they came. -/
  elements : List Element

namespace Resolver

/-- Takes every item of a stream up to the first failure. -/
def drain : Stream → Run (List Element)
  | [] => pure []
  | .error e :: _ => .draw 1 (.error e)
  | .ok element :: rest => do
      Run.draw 1 (.ok ())
      return element :: (← drain rest)

/-- Takes items and keeps the elements that satisfy the constraints, up to the
first failure. -/
def sift (constraints : List Constraint) : Stream → Run (List Element × Nat)
  | [] => pure ([], 0)
  | .error e :: _ => .draw 1 (.error e)
  | .ok element :: rest => do
      let kept ← Run.draw 1 (testAll element constraints)
      let (more, read) ← sift constraints rest
      return (if kept then element :: more else more, read + 1)

/-- Keeps the elements that satisfy the constraints. -/
def select (constraints : List Constraint) : List Element → Except Failure (List Element)
  | [] => .ok []
  | element :: rest => do
      let kept ← testAll element constraints
      let more ← select constraints rest
      .ok (if kept then element :: more else more)

/-- The elements kept on a path, and how many were read. -/
def fetch (path : AccessPath) (kind : ElementKind) (constraints : List Constraint) (p : Provider) :
    Run (List Element × Nat) :=
  match path with
  | .byId ids => do
      let found ← drain (← p.askLookup kind ids)
      return (← Run.ofExcept (select constraints found), found.length)
  | .byIndex query => do sift constraints (← p.askProbe query.index query.key query.values)
  | .fullScan => do sift constraints (← p.askScan kind)

/-- Follows an access path. -/
def resolve (path : AccessPath) (kind : ElementKind) (constraints : List Constraint)
    (p : Provider) : Run Resolution := do
  let (elements, candidates) ← fetch path kind constraints p
  Run.log (.resolved path.name kind candidates elements.length)
  return ⟨path, candidates, elements⟩

end Resolver

end StartStep
