import StartStep.Proofs.Planning
import StartStep.Proofs.Resolution
import StartStep.Script

/-!
# What an engine owes a step

A step may be attached to any engine, so the question is how little has to be
asked of one. `Provider.Conforms` is the answer: the questions are answered,
properties are the only keys said to be indexed, and a probe leaves out no
element that it was asked for. Everything else is free. A probe may return
elements that were not asked for, in any order and any number of times, because
every candidate is tested again; and keys may be advertised that no index
covers, because then everything is read.

`mem_resolve_of_conforms` is what comes of it: a step without identifiers finds
exactly the elements of a scan that satisfy its constraints. The argument is
short because its two halves are elsewhere. That nothing is lost is a matter of
planning (`Planner.carries_of_findIndex` and `label_eq_of_satisfies`); that
nothing is kept wrongly is a matter of resolving
(`Resolver.resolve_elements`).
-/

namespace StartStep

/-- What is asked of an engine whose elements of a kind are the stored ones. -/
structure Provider.Conforms (p : Provider) (kind : ElementKind) (stored : List Element) :
    Prop where
  scan : p.scan kind = .ok (stored.map .ok)
  indexedKeys : ∀ label, ∃ keys, p.indexedKeys kind label = .ok keys ∧
    ∀ key ∈ keys, KeyKind.ofKey key = .property
  /-- Probing any field of any index of the label's class gives stored
  elements, among them all with the label and one of the values. -/
  classIndexes : ∀ label, ∃ indexes,
    p.classIndexes (p.className kind label) = .ok indexes ∧
      ∀ index ∈ indexes, ∀ key ∈ index.fields, ∀ values, ∃ found : List Element,
        p.probe index key values = .ok (found.map .ok) ∧
        (∀ e ∈ found, e ∈ stored) ∧
        ∀ e ∈ stored, e.label = label → (∃ v ∈ values, e.carries key v = true) →
          e ∈ found

section Conforms

variable {p : Provider} {kind : ElementKind} {stored : List Element}
  {constraints : List Constraint}

theorem Provider.Conforms.findIndex_ok (hp : p.Conforms kind stored)
    (hconstraints : ∀ c ∈ constraints, c.WellFormed) :
    ∃ query, (Planner.findIndex constraints kind p).result = .ok query := by
  refine Planner.findIndex_ok hconstraints (fun label => ?_) (fun label => ?_)
  · obtain ⟨keys, hkeys, -⟩ := hp.indexedKeys label
    exact ⟨keys, hkeys⟩
  · obtain ⟨indexes, hindexes, -⟩ := hp.classIndexes label
    exact ⟨indexes, hindexes⟩

/-- A chosen probe finds stored elements only, and all that satisfy the
constraints. -/
theorem Provider.Conforms.probe (hp : p.Conforms kind stored) {q : IndexQuery}
    (hq : (Planner.findIndex constraints kind p).result = .ok (some q)) :
    ∃ found : List Element, p.probe q.index q.key q.values = .ok (found.map .ok) ∧
      (∀ e ∈ found, e ∈ stored) ∧
      ∀ e ∈ stored, Satisfies constraints e → e ∈ found := by
  obtain ⟨label, keys, driver, indexes, hlabel, hkeys, hdriver, hkey, -, hindexes,
    hindex, hcovers⟩ := Planner.exists_of_findIndex hq
  have hproperty : KeyKind.ofKey q.key = .property := by
    obtain ⟨keys', hkeys', hall⟩ := hp.indexedKeys label
    rw [hkeys] at hkeys'
    cases hkeys'
    exact hkey ▸ hall driver.key (Planner.driver?_eq_some_iff.mp hdriver).holds.2
  obtain ⟨indexes', hindexes', hall⟩ := hp.classIndexes label
  rw [hindexes] at hindexes'
  cases hindexes'
  obtain ⟨found, hfound, hsub, hsup⟩ :=
    hall q.index hindex q.key (List.contains_iff_mem.mp hcovers) q.values
  refine ⟨found, hfound, hsub, fun e he hs => ?_⟩
  exact hsup e he (label_eq_of_satisfies hlabel hs)
    (Planner.carries_of_findIndex hq hproperty hs)

end Conforms

/-- A step without identifiers finds, on every conforming engine, exactly the
elements that satisfy its constraints. -/
theorem mem_resolve_of_conforms {p : Provider} {s : Step} {stored : List Element}
    (hp : p.Conforms s.kind stored) (hconstraints : ∀ c ∈ s.constraints, c.WellFormed)
    (hids : s.ids = []) :
    ∃ r, (s.attach p).resolve.result = .ok r ∧
      ∀ e, e ∈ r.elements ↔ e ∈ stored ∧ Satisfies s.constraints e := by
  have htest : ∀ e, Testable s.constraints e := testAll_of_wellFormed hconstraints
  obtain ⟨query, hquery⟩ := hp.findIndex_ok hconstraints
  have hplan : (s.attach p).plan.result = .ok (Planner.pathOf query) := by
    rw [Step.attach_plan_result, if_pos hids, Step.attach_findIndex_result, hquery]
    rfl
  rw [Step.attach_resolve_result hplan]
  cases query with
  | none =>
      refine ⟨_, Resolver.resolve_elements hp.scan fun e _ => htest e, fun e => ?_⟩
      simp
  | some q =>
      obtain ⟨found, hfound, hsub, hsup⟩ := hp.probe hquery
      refine ⟨_, Resolver.resolve_elements hfound fun e _ => htest e, fun e => ?_⟩
      simp only [List.mem_filter, decide_eq_true_eq]
      constructor
      · rintro ⟨he, hs⟩
        exact ⟨hsub e he, hs⟩
      · rintro ⟨he, hs⟩
        exact ⟨hsup e he hs, hs⟩

/-! An engine that does as badly as it may: it advertises a key that no index
covers, and it answers every probe with all that it has, out of order and one
element twice. -/

def carelessEngine : Provider :=
  let ada : Element := .named 1 "Person" "Ada"
  let ben : Element := .named 2 "Person" "Ben"
  Script.provider
    { keys := .ok ["town", "name"]
      classes := .ok [("V_Person", [⟨"people", "V_Person", ["name"]⟩])]
      scan := .ok [.ok ada, .ok ben]
      probe := .ok [.ok ben, .ok ada, .ok ben] }

theorem carelessEngine_conforms :
    carelessEngine.Conforms .vertex [.named 1 "Person" "Ada", .named 2 "Person" "Ben"] where
  scan := rfl
  indexedKeys label := ⟨["town", "name"], rfl, by decide⟩
  classIndexes label := by
    refine ⟨_, rfl, fun index _ key _ values => ⟨[.named 2 "Person" "Ben",
      .named 1 "Person" "Ada", .named 2 "Person" "Ben"], rfl, ?_, ?_⟩⟩
    · simp
    · intro e he _ _
      simp only [List.mem_cons, List.not_mem_nil, or_false] at he ⊢
      exact he.symm.imp_right .inl

theorem mem_resolve_of_conforms_careless :
    let s := ((Step.new .vertex []).has (.label "Person")).has
      (.within "name" [.string "Ada", .int 3])
    carelessEngine.Conforms s.kind [.named 1 "Person" "Ada", .named 2 "Person" "Ben"] ∧
      (∀ c ∈ s.constraints, c.WellFormed) ∧ s.ids = [] ∧
      ∃ r, (s.attach carelessEngine).resolve.result = .ok r ∧
        ∀ e, e ∈ r.elements ↔
          e ∈ [.named 1 "Person" "Ada", .named 2 "Person" "Ben"] ∧
            Satisfies s.constraints e := by
  intro s
  have hconstraints : ∀ c ∈ s.constraints, c.WellFormed := by decide
  exact ⟨carelessEngine_conforms, hconstraints, rfl,
    mem_resolve_of_conforms carelessEngine_conforms hconstraints rfl⟩

end StartStep
