import StartStep.Proofs.Resolution
import StartStep.Proofs.Planning
import StartStep.MemGraph

/-!
# A fault is never taken for an answer

A graph in memory can be made to fail at one point, and the points lie in
different places: a question about indexes is refused, or one of the three
requests, or every stream breaks off, even one that has ended already. A
resolution could turn any of these into a result of another kind, by reading
everything after a question was refused or by keeping what came before a stream
broke off. It does not: where a fault strikes a resolution fails, and where it
does not strike nothing is changed (`resolve_withFault`).

Whether a fault strikes (`Strikes`) can be told without it. Three of them strike
the one path that needs the request, one the steps that ask about indexes at
all, and a broken stream strikes every step.
-/

namespace StartStep

/-- The step on the plan needs what a fault takes away. -/
inductive FaultPoint.Strikes (s : Step) (plan : Except Failure AccessPath) :
    FaultPoint → Prop
  | lookup {ids : List ElementId} (h : plan = .ok (.byId ids)) : Strikes s plan .lookup
  | scan (h : plan = .ok .fullScan) : Strikes s plan .scan
  | probe {q : IndexQuery} (h : plan = .ok (.byIndex q)) : Strikes s plan .probe
  | metadata {label : String} (hids : s.ids = []) (hlabel : NamesClass s.constraints label) :
      Strikes s plan .metadata
  | midStream (after : Nat) : Strikes s plan (.midStream after)

namespace MemGraph

/-- The graph with nothing made to fail. -/
def withoutFault (g : MemGraph) : MemGraph := { g with fault := none }

variable {g : MemGraph} {f : FaultPoint} {s : Step}

/-! ## Planning -/

/-- Only one fault is met while planning, and only by steps that ask. -/
theorem plan_withFault
    (h : f = .metadata → s.ids ≠ [] ∨ ∀ label, ¬ NamesClass s.constraints label) :
    (s.attach (g.withFault f).provider).plan.result =
      (s.attach g.withoutFault.provider).plan.result := by
  rw [Step.attach_plan_result, Step.attach_plan_result]
  by_cases hids : s.ids = []
  · rw [if_pos hids, if_pos hids, Step.attach_findIndex_result, Step.attach_findIndex_result,
      Planner.findIndex_result, Planner.findIndex_result]
    cases hlabel : classLabel s.constraints with
    | none => rfl
    | some label =>
        cases f with
        | metadata =>
            rcases h rfl with hids' | hnone
            · exact absurd hids hids'
            · exact absurd (classLabel_eq_some_iff.mp hlabel) (hnone label)
        | lookup | scan | probe | midStream after => rfl
  · rw [if_neg hids, if_neg hids]

theorem plan_withFault_metadata {label : String} (hids : s.ids = [])
    (hlabel : NamesClass s.constraints label) :
    ∃ e, (s.attach (g.withFault .metadata).provider).plan.result = .error e := by
  refine ⟨.storage "injected Metadata failure", ?_⟩
  rw [Step.attach_plan_result, if_pos hids, Step.attach_findIndex_result,
    Planner.findIndex_eq_error_iff.mpr (.keys hlabel rfl)]
  rfl

/-! ## The requests -/

/-- A request that is not struck is answered as it would be. -/
theorem answer_withFault {path : AccessPath} (h : ¬ f.Strikes s (.ok path)) :
    path.answer s.kind (g.withFault f).provider =
      path.answer s.kind g.withoutFault.provider := by
  cases f with
  | lookup =>
      cases path with
      | byId ids => exact absurd (.lookup rfl) h
      | byIndex q => rfl
      | fullScan => rfl
  | scan =>
      cases path with
      | byId ids => rfl
      | byIndex q => rfl
      | fullScan => exact absurd (.scan rfl) h
  | probe =>
      cases path with
      | byId ids => rfl
      | byIndex q => exact absurd (.probe rfl) h
      | fullScan => rfl
  | metadata => cases path <;> rfl
  | midStream after => exact absurd (.midStream after) h

/-- A stream that is made to break off does so even behind its last element. -/
theorem error_mem_of_answer_midStream {path : AccessPath} {kind : ElementKind}
    {after : Nat} {items : Stream}
    (h : path.answer kind (g.withFault (.midStream after)).provider = .ok items) :
    ∃ e, .error e ∈ items := by
  have hstream : ∀ elements, ∃ e, .error e ∈ (g.withFault (.midStream after)).stream elements :=
    fun elements => ⟨_, List.mem_append_right _ (List.mem_singleton_self _)⟩
  cases path with
  | byId ids =>
      cases h
      exact hstream _
  | fullScan =>
      cases h
      exact hstream _
  | byIndex q =>
      unfold AccessPath.answer provider at h
      obtain ⟨-, -, h⟩ := bind_eq_ok.mp h
      split at h
      · simp at h
      · split at h
        · simp at h
        · cases h
          exact hstream _

/-! ## The resolution -/

theorem resolve_withFault_of_not_strikes
    (h : ¬ f.Strikes s (s.attach g.withoutFault.provider).plan.result) :
    (s.attach (g.withFault f).provider).resolve.result =
      (s.attach g.withoutFault.provider).resolve.result := by
  have hasks : f = .metadata → s.ids ≠ [] ∨ ∀ label, ¬ NamesClass s.constraints label := by
    rintro rfl
    by_cases hids : s.ids = []
    · exact .inr fun label hlabel => h (.metadata hids hlabel)
    · exact .inl hids
  rw [Step.attach_resolve_result_eq_bind, Step.attach_resolve_result_eq_bind,
    plan_withFault hasks]
  cases hplan : (s.attach g.withoutFault.provider).plan.result with
  | error e => rfl
  | ok path =>
      rw [hplan] at h
      exact Resolver.resolve_result_congr (answer_withFault h)

theorem resolve_withFault_of_refused {path : AccessPath} {e : Failure} (hf : f ≠ .metadata)
    (hplan : (s.attach g.withoutFault.provider).plan.result = .ok path)
    (h : path.answer s.kind (g.withFault f).provider = .error e) :
    (s.attach (g.withFault f).provider).resolve.result = .error e := by
  rw [Step.attach_resolve_result ((plan_withFault fun hmeta => absurd hmeta hf).trans hplan)]
  exact (Resolver.resolve_of_refused s.constraints h).2

theorem resolve_withFault_of_strikes
    (h : f.Strikes s (s.attach g.withoutFault.provider).plan.result) :
    ∃ e, (s.attach (g.withFault f).provider).resolve.result = .error e := by
  cases h with
  | lookup hplan => exact ⟨_, resolve_withFault_of_refused (by decide) hplan rfl⟩
  | scan hplan => exact ⟨_, resolve_withFault_of_refused (by decide) hplan rfl⟩
  | probe hplan => exact ⟨_, resolve_withFault_of_refused (by decide) hplan rfl⟩
  | metadata hids hlabel =>
      obtain ⟨e, hplan⟩ := @plan_withFault_metadata g s _ hids hlabel
      exact ⟨e, by rw [Step.attach_resolve_result_eq_bind, hplan, error_bind]⟩
  | midStream after =>
      cases hr : (s.attach (g.withFault (.midStream after)).provider).resolve.result with
      | error e => exact ⟨e, rfl⟩
      | ok r =>
          rw [Step.attach_resolve_result_eq_bind] at hr
          obtain ⟨path, -, hr⟩ := bind_eq_ok.mp hr
          obtain ⟨found, hanswer, -⟩ := Resolver.exists_of_resolve hr
          obtain ⟨e, he⟩ := error_mem_of_answer_midStream hanswer
          simp at he

/-- For every graph, fault and step: a resolution that succeeds in spite of the
fault has the outcome that it has without it, and the fault makes it fail exactly
where it strikes, besides where it fails anyway. -/
theorem resolve_withFault (g : MemGraph) (f : FaultPoint) (s : Step) :
    (∀ r, (s.attach (g.withFault f).provider).resolve.result = .ok r →
      (s.attach g.withoutFault.provider).resolve.result = .ok r) ∧
    ((∃ e, (s.attach (g.withFault f).provider).resolve.result = .error e) ↔
      (∃ e, (s.attach g.withoutFault.provider).resolve.result = .error e) ∨
        f.Strikes s (s.attach g.withoutFault.provider).plan.result) := by
  by_cases h : f.Strikes s (s.attach g.withoutFault.provider).plan.result
  · obtain ⟨e, he⟩ := resolve_withFault_of_strikes h
    refine ⟨fun r hr => ?_, fun _ => .inr h, fun _ => ⟨e, he⟩⟩
    rw [he] at hr
    simp at hr
  · rw [resolve_withFault_of_not_strikes h]
    exact ⟨fun r hr => hr, .inl, fun hfails => hfails.resolve_right h⟩

end MemGraph

end StartStep
