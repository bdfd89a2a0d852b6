import StartStep.Proofs.Selection

/-!
# What a chosen index stands for

A plan is made without looking at an element, so everything that a chosen probe
promises has to be read off the constraints. `exists_of_findIndex` gathers it:
the label that names the class, the constraint that drives the probe, and the
index that covers its key, each with the answer of the engine that it came
from. Two consequences carry the later arguments. Choosing never fails if the
questions to the engine are answered and the constraints are well formed
(`findIndex_ok`). And a chosen probe asks for enough: an element that satisfies
all constraints has one of the probed values under the probed key, if that key
is a property (`carries_of_findIndex`).

The proviso is needed. Reserved keys may be driven by a constraint like any
other, and then the probe looks for a property that the elements need not have.
-/

namespace StartStep

namespace Planner

theorem exists_of_findIndex {constraints : List Constraint} {kind : ElementKind}
    {p : Provider} {q : IndexQuery}
    (h : (findIndex constraints kind p).result = .ok (some q)) :
    ∃ label keys driver indexes,
      classLabel constraints = some label ∧
      p.indexedKeys kind label = .ok keys ∧
      driver? constraints keys = some driver ∧ driver.key = q.key ∧
      driver.probeValues = .ok q.values ∧
      p.classIndexes (p.className kind label) = .ok indexes ∧
      q.index ∈ indexes ∧ q.index.covers q.key = true := by
  obtain ⟨hdriven, hvalues, hindexes, hindex⟩ := findIndex_eq_some_iff.mp h
  obtain ⟨hlabel, keys, hkeys, hdriver⟩ := driven_iff.mp hdriven
  exact ⟨_, keys, _, _, hlabel, hkeys, hdriver, rfl,
    Constraint.probeValues_eq_ok_iff.mpr hvalues, hindexes, hindex.mem,
    List.contains_iff_mem.mpr hindex.holds⟩

theorem findIndex_ok {constraints : List Constraint} {kind : ElementKind} {p : Provider}
    (hconstraints : ∀ c ∈ constraints, c.WellFormed)
    (hkeys : ∀ label, ∃ keys, p.indexedKeys kind label = .ok keys)
    (hindexes : ∀ label, ∃ indexes,
      p.classIndexes (p.className kind label) = .ok indexes) :
    ∃ query, (findIndex constraints kind p).result = .ok query := by
  cases hresult : (findIndex constraints kind p).result with
  | ok query => exact ⟨query, rfl⟩
  | error f =>
      exfalso
      cases findIndex_eq_error_iff.mp hresult with
      | @keys label _ _ hfails =>
          obtain ⟨keys, hk⟩ := hkeys label
          rw [hk] at hfails
          simp at hfails
      | operand hdriven hpred hlist =>
          obtain ⟨items, hitems⟩ := hconstraints _ hdriven.mem (by rw [hpred]; rfl)
          exact hlist items hitems
      | @indexes label _ _ _ _ _ hfails =>
          obtain ⟨indexes, hi⟩ := hindexes label
          rw [hi] at hfails
          simp at hfails

/-- An index is missed only by an engine that contradicts itself: it says that a
key is indexed and lists no index of the class that covers it. -/
theorem exists_of_indexMissed {constraints : List Constraint} {kind : ElementKind}
    {p : Provider} {name key : String}
    (h : .indexMissed name key ∈ (findIndex constraints kind p).events) :
    ∃ label keys indexes, p.indexedKeys kind label = .ok keys ∧
      p.classIndexes (p.className kind label) = .ok indexes ∧
      key ∈ keys ∧ ∀ index ∈ indexes, index.covers key = false := by
  unfold findIndex at h
  split at h
  · exact absurd h List.not_mem_nil
  · next label hlabel =>
      obtain h | ⟨keys, hkeys, h⟩ := Run.mem_events_bind.mp h
      · exact absurd h List.not_mem_nil
      split at h
      · exact absurd h List.not_mem_nil
      · next driver hdriver =>
          obtain h | ⟨values, -, h⟩ := Run.mem_events_bind.mp h
          · exact absurd h List.not_mem_nil
          obtain h | ⟨className, hname, h⟩ := Run.mem_events_bind.mp h
          · exact absurd h List.not_mem_nil
          cases hname
          obtain h | ⟨indexes, hindexes, h⟩ := Run.mem_events_bind.mp h
          · exact absurd h List.not_mem_nil
          split at h
          · next hnone =>
              have hevent := List.mem_singleton.mp h
              cases hevent
              refine ⟨label, keys, indexes, hkeys, hindexes,
                (driver?_eq_some_iff.mp hdriver).holds.2, fun index hindex => ?_⟩
              exact Bool.eq_false_iff.mpr (List.find?_eq_none.mp hnone index hindex)
          · have hevent := List.mem_singleton.mp h
            cases hevent

/-- A chosen probe asks for enough. -/
theorem carries_of_findIndex {constraints : List Constraint} {kind : ElementKind}
    {p : Provider} {q : IndexQuery} {e : Element}
    (h : (findIndex constraints kind p).result = .ok (some q))
    (hkey : KeyKind.ofKey q.key = .property) (hs : Satisfies constraints e) :
    ∃ v ∈ q.values, e.carries q.key v = true := by
  obtain ⟨hdriven, hvalues, -, -⟩ := findIndex_eq_some_iff.mp h
  exact carries_of_test hkey (Constraint.probeValues_eq_ok_iff.mpr hvalues)
    (hs _ hdriven.mem)

end Planner

namespace Step

variable {s : Step} {p : Provider}

theorem attach_findIndex_result :
    (s.attach p).findIndex.result = (Planner.findIndex s.constraints s.kind p).result := by
  show ((s.attach p).provider >>= _).result = _
  rw [Run.result_bind]
  rfl

theorem attach_plan_result :
    (s.attach p).plan.result =
      if s.ids = [] then (s.attach p).findIndex.result.map Planner.pathOf
      else .ok (.byId s.ids) := by
  rw [attach_findIndex_result, ← Planner.plan_result s.config]
  show ((s.attach p).provider >>= _).result = _
  rw [Run.result_bind]
  rfl

/-- A plan is a lookup if there are identifiers, and else what the search for an
index leads to. -/
theorem exists_of_attach_plan {path : AccessPath}
    (h : (s.attach p).plan.result = .ok path) :
    s.ids ≠ [] ∧ path = .byId s.ids ∨
      s.ids = [] ∧ ∃ query, (s.attach p).findIndex.result = .ok query ∧
        path = Planner.pathOf query := by
  rw [attach_plan_result] at h
  split at h
  · next hids =>
      cases hquery : (s.attach p).findIndex.result with
      | error f => simp [hquery, Except.map] at h
      | ok query =>
          rw [hquery] at h
          exact .inr ⟨hids, query, rfl, (Except.ok.inj h).symm⟩
  · next hids => exact .inl ⟨hids, (Except.ok.inj h).symm⟩

theorem attach_resolve_result_eq_bind :
    (s.attach p).resolve.result = (s.attach p).plan.result >>= fun path =>
      (Resolver.resolve path s.kind s.constraints p).result := by
  show ((s.attach p).plan >>= _).result = _
  rw [Run.result_bind]
  refine congrArg _ (funext fun path => ?_)
  rw [Run.result_bind]
  rfl

theorem attach_resolve_result {path : AccessPath}
    (h : (s.attach p).plan.result = .ok path) :
    (s.attach p).resolve.result = (Resolver.resolve path s.kind s.constraints p).result := by
  rw [attach_resolve_result_eq_bind, h, ok_bind]

theorem attach_explain_result :
    (s.attach p).explain.result =
      (s.attach p).plan.result.map fun path => .ofPlan s.text path s.kind s.constraints := by
  show ((s.attach p).plan >>= _).result = _
  rw [Run.result_bind]
  cases (s.attach p).plan.result <;> rfl

/-- Constraints added one after the other stand behind the others in this order,
and nothing else of the step is changed. -/
theorem foldl_has (s : Step) (further : List Constraint) :
    further.foldl Step.has s = { s with constraints := s.constraints ++ further } := by
  induction further generalizing s with
  | nil => rw [List.append_nil]; rfl
  | cons c rest ih =>
      rw [List.foldl_cons, ih, Step.has, List.append_assoc, List.singleton_append]

end Step

end StartStep
