import StartStep.Proofs.Predicates
import StartStep.Step

/-!
# Which access path is chosen

Choosing a path is three searches for a first match, one inside the other: for
the first constraint on the label, for the first constraint that can drive a
probe, for the first index that covers its key. Between them the engine is
asked and may fail, and the driving constraint may turn out to have nothing to
probe for. This file says what comes of it without running it. `Finds` is the
query that is settled on, `Breaks` the failures that end the search, `Asks` the
questions put to the engine; each speaks of first matches and answers only.

`plan_iff` is the result: for every engine, these three are what planning does.
There is no third ending to be described, because reading everything is what is
left when nothing is found and nothing breaks. The questions depend on less
than the ending does: the last two are asked as soon as there are values to
probe for, whatever is answered then.
-/

namespace StartStep

namespace Planner

variable {constraints : List Constraint} {kind : ElementKind} {p : Provider}
  {label : String} {driver : Constraint}

/-- A constraint can drive a probe, given the keys that are indexed. -/
def Drives (keys : List String) (c : Constraint) : Prop :=
  (c.predicate = .eq ∨ c.predicate = .within) ∧ c.key ∈ keys

theorem drives_iff {keys : List String} (c : Constraint) :
    (c.predicate.isIndexEligible && keys.contains c.key) = true ↔ Drives keys c := by
  rw [Bool.and_eq_true, List.contains_iff_mem]
  refine and_congr_left fun _ => ?_
  cases c.predicate <;> simp [Predicate.isIndexEligible]

theorem driver?_eq_some_iff {keys : List String} :
    driver? constraints keys = some driver ↔ IsFirst (Drives keys) constraints driver :=
  find?_eq_some_iff_isFirst drives_iff

/-- A class is named, the engine says which of its keys are indexed, and a
constraint is the first to drive a probe. -/
def Driven (constraints : List Constraint) (kind : ElementKind) (p : Provider)
    (label : String) (driver : Constraint) : Prop :=
  NamesClass constraints label ∧
    ∃ keys, p.indexedKeys kind label = .ok keys ∧ IsFirst (Drives keys) constraints driver

theorem Driven.predicate (h : Driven constraints kind p label driver) :
    driver.predicate = .eq ∨ driver.predicate = .within := by
  obtain ⟨-, keys, -, hfirst⟩ := h
  exact hfirst.holds.1

theorem Driven.mem (h : Driven constraints kind p label driver) : driver ∈ constraints := by
  obtain ⟨-, keys, -, hfirst⟩ := h
  exact hfirst.mem

theorem driven_iff : Driven constraints kind p label driver ↔
    classLabel constraints = some label ∧
      ∃ keys, p.indexedKeys kind label = .ok keys ∧
        driver? constraints keys = some driver := by
  unfold Driven
  simp only [classLabel_eq_some_iff, driver?_eq_some_iff]

/-! ## The search for an index -/

/-- The query that is found: the first index of the class that covers the
driving key, to be probed under this key for the values of the constraint. -/
inductive Finds (constraints : List Constraint) (kind : ElementKind) (p : Provider) :
    IndexQuery → Prop
  | covered {label : String} {driver : Constraint} {values : List Value}
      {indexes : List Index} {index : Index}
      (hdriver : Driven constraints kind p label driver)
      (hvalues : driver.ProbesFor values)
      (hindexes : p.classIndexes (p.className kind label) = .ok indexes)
      (hindex : IsFirst (driver.key ∈ ·.fields) indexes index) :
      Finds constraints kind p ⟨index, driver.key, values⟩

/-- The failures that end the search. -/
inductive Breaks (constraints : List Constraint) (kind : ElementKind) (p : Provider) :
    Failure → Prop
  /-- The engine does not say which keys are indexed. -/
  | keys {label : String} {f : Failure} (hlabel : NamesClass constraints label)
      (hkeys : p.indexedKeys kind label = .error f) : Breaks constraints kind p f
  /-- The driving constraint asks for membership in something that is no list. -/
  | operand {label : String} {driver : Constraint}
      (hdriver : Driven constraints kind p label driver)
      (hpred : driver.predicate = .within) (hlist : ∀ items, driver.value ≠ .list items) :
      Breaks constraints kind p (.operandNotList driver.key)
  /-- The engine does not list the indexes of the class. -/
  | indexes {label : String} {driver : Constraint} {values : List Value} {f : Failure}
      (hdriver : Driven constraints kind p label driver)
      (hvalues : driver.ProbesFor values)
      (hindexes : p.classIndexes (p.className kind label) = .error f) :
      Breaks constraints kind p f

/-- What the engine is asked on the way. -/
inductive Asks (constraints : List Constraint) (kind : ElementKind) (p : Provider) :
    List Call → Prop
  | nothing (h : ∀ label, ¬ NamesClass constraints label) : Asks constraints kind p []
  | keys {label : String} (hlabel : NamesClass constraints label)
      (hvalues : ∀ driver values, Driven constraints kind p label driver →
        ¬ driver.ProbesFor values) :
      Asks constraints kind p [.indexedKeys kind label]
  | indexes {label : String} {driver : Constraint} {values : List Value}
      (hdriver : Driven constraints kind p label driver)
      (hvalues : driver.ProbesFor values) :
      Asks constraints kind p [.indexedKeys kind label, .className kind label,
        .classIndexes (p.className kind label)]

/-- The search with nothing recorded: a label, a driving constraint with its
values, and the first index that covers its key. -/
theorem findIndex_result (constraints : List Constraint) (kind : ElementKind)
    (p : Provider) :
    (findIndex constraints kind p).result =
      (match classLabel constraints with
      | none => .ok none
      | some label => do
          let keys ← p.indexedKeys kind label
          match driver? constraints keys with
          | none => .ok none
          | some driver => do
              let values ← driver.probeValues
              let indexes ← p.classIndexes (p.className kind label)
              .ok ((indexes.find? (·.covers driver.key)).map
                fun index => ⟨index, driver.key, values⟩)) := by
  unfold findIndex
  cases classLabel constraints with
  | none => rfl
  | some label =>
      simp only [Run.result_bind]
      refine congrArg _ (funext fun keys => ?_)
      cases driver? constraints keys with
      | none => rfl
      | some driver =>
          simp only [Run.result_bind, Run.result_ofExcept]
          refine congrArg _ (funext fun values => ?_)
          show (p.classIndexes (p.className kind label) >>= _) = _
          refine congrArg _ (funext fun indexes => ?_)
          cases indexes.find? (·.covers driver.key) <;> rfl

theorem findIndex_calls (constraints : List Constraint) (kind : ElementKind)
    (p : Provider) :
    (findIndex constraints kind p).calls =
      match classLabel constraints with
      | none => []
      | some label => .indexedKeys kind label ::
          match (p.indexedKeys kind label).map (driver? constraints) with
          | .ok (some driver) =>
              match driver.probeValues with
              | .ok _ => [.className kind label, .classIndexes (p.className kind label)]
              | .error _ => []
          | _ => [] := by
  unfold findIndex
  cases classLabel constraints with
  | none => rfl
  | some label =>
      dsimp only
      cases hkeys : p.indexedKeys kind label with
      | error f => exact Run.calls_bind_of_error (e := f) hkeys _
      | ok keys =>
          rw [Run.calls_bind_of_ok (a := keys) hkeys]
          show Call.indexedKeys kind label :: _ = Call.indexedKeys kind label :: _
          congr 1
          dsimp only [Except.map]
          cases driver? constraints keys with
          | none => rfl
          | some driver =>
              dsimp only
              cases driver.probeValues with
              | error f => rfl
              | ok values =>
                  show Call.className kind label :: (p.askClassIndexes _ >>= _).calls = _
                  congr 1
                  cases hindexes : p.classIndexes (p.className kind label) with
                  | error f => exact Run.calls_bind_of_error (e := f) hindexes _
                  | ok indexes =>
                      rw [Run.calls_bind_of_ok (a := indexes) hindexes]
                      cases indexes.find? (·.covers driver.key) <;> rfl

theorem findIndex_eq_some_iff {q : IndexQuery} :
    (findIndex constraints kind p).result = .ok (some q) ↔ Finds constraints kind p q := by
  have hcovers : ∀ key (i : Index), i.covers key = true ↔ key ∈ i.fields :=
    fun _ _ => List.contains_iff_mem
  rw [findIndex_result]
  constructor
  · intro h
    split at h
    · simp at h
    · next label hlabel =>
        obtain ⟨keys, hkeys, h⟩ := bind_eq_ok.mp h
        split at h
        · simp at h
        · next driver hdriver =>
            obtain ⟨values, hvalues, h⟩ := bind_eq_ok.mp h
            obtain ⟨indexes, hindexes, h⟩ := bind_eq_ok.mp h
            obtain ⟨index, hindex, rfl⟩ := Option.map_eq_some_iff.mp (Except.ok.inj h)
            exact .covered (driven_iff.mpr ⟨hlabel, keys, hkeys, hdriver⟩)
              (Constraint.probeValues_eq_ok_iff.mp hvalues) hindexes
              ((find?_eq_some_iff_isFirst (hcovers _)).mp hindex)
  · rintro ⟨hdriver, hvalues, hindexes, hindex⟩
    obtain ⟨hlabel, keys, hkeys, hdriver⟩ := driven_iff.mp hdriver
    simp only [hlabel, hkeys, ok_bind, hdriver, Constraint.probeValues_eq_ok_iff.mpr hvalues,
      hindexes, (find?_eq_some_iff_isFirst (hcovers _)).mpr hindex, Option.map_some]

theorem findIndex_eq_error_iff {f : Failure} :
    (findIndex constraints kind p).result = .error f ↔ Breaks constraints kind p f := by
  rw [findIndex_result]
  constructor
  · intro h
    split at h
    · simp at h
    · next label hlabel =>
        rcases bind_eq_error.mp h with hkeys | ⟨keys, hkeys, h⟩
        · exact .keys (classLabel_eq_some_iff.mp hlabel) hkeys
        · split at h
          · simp at h
          · next driver hdriver =>
              have hdriven : Driven constraints kind p label driver :=
                driven_iff.mpr ⟨hlabel, keys, hkeys, hdriver⟩
              rcases bind_eq_error.mp h with hvalues | ⟨values, hvalues, h⟩
              · obtain ⟨hpred, hlist, rfl⟩ :=
                  (Constraint.probeValues_eq_error_iff hdriven.predicate).mp hvalues
                exact .operand hdriven hpred hlist
              · rcases bind_eq_error.mp h with hindexes | ⟨indexes, -, h⟩
                · exact .indexes hdriven (Constraint.probeValues_eq_ok_iff.mp hvalues) hindexes
                · simp at h
  · intro h
    cases h with
    | keys hlabel hkeys =>
        rw [classLabel_eq_some_iff.mpr hlabel]
        dsimp only
        rw [hkeys, error_bind]
    | operand hdriven hpred hlist =>
        have hvalues := (Constraint.probeValues_eq_error_iff hdriven.predicate).mpr
          ⟨hpred, hlist, rfl⟩
        obtain ⟨hlabel, keys, hkeys, hdriver⟩ := driven_iff.mp hdriven
        simp only [hlabel, hkeys, ok_bind, hdriver, hvalues, error_bind]
    | indexes hdriven hvalues hindexes =>
        have hvalues := Constraint.probeValues_eq_ok_iff.mpr hvalues
        obtain ⟨hlabel, keys, hkeys, hdriver⟩ := driven_iff.mp hdriven
        simp only [hlabel, hkeys, ok_bind, hdriver, hvalues, hindexes, error_bind]

/-! ## The questions -/

theorem findIndex_calls_of_driven {values : List Value}
    (hdriven : Driven constraints kind p label driver) (hvalues : driver.ProbesFor values) :
    (findIndex constraints kind p).calls = [.indexedKeys kind label, .className kind label,
      .classIndexes (p.className kind label)] := by
  have hvalues := Constraint.probeValues_eq_ok_iff.mpr hvalues
  obtain ⟨hlabel, keys, hkeys, hdriver⟩ := driven_iff.mp hdriven
  rw [findIndex_calls]
  simp only [hlabel, hkeys, Except.map, hdriver, hvalues]

theorem findIndex_calls_of_not_driven (hlabel : NamesClass constraints label)
    (hnone : ∀ driver values, Driven constraints kind p label driver →
      ¬ driver.ProbesFor values) :
    (findIndex constraints kind p).calls = [.indexedKeys kind label] := by
  have hname := classLabel_eq_some_iff.mpr hlabel
  rw [findIndex_calls, hname]
  dsimp only
  congr 1
  split
  · next driver hkeys =>
      split
      · next values hvalues =>
          obtain ⟨keys, hkeys, hdriver⟩ := exists_of_map_eq_ok hkeys
          exact absurd (Constraint.probeValues_eq_ok_iff.mp hvalues)
            (hnone driver values (driven_iff.mpr ⟨hname, keys, hkeys, hdriver⟩))
      · rfl
  · rfl

theorem findIndex_calls_of_unnamed (hnone : ∀ label, ¬ NamesClass constraints label) :
    (findIndex constraints kind p).calls = [] := by
  rw [findIndex_calls]
  split
  · rfl
  · next label hlabel => exact absurd (classLabel_eq_some_iff.mp hlabel) (hnone label)

/-- Whether a class is named and whether there are values to probe for decides
what is asked; no answer about the indexes of the class does. -/
theorem findIndex_calls_iff {calls : List Call} :
    (findIndex constraints kind p).calls = calls ↔ Asks constraints kind p calls := by
  constructor
  · rintro rfl
    by_cases hnamed : ∃ label, NamesClass constraints label
    · obtain ⟨label, hlabel⟩ := hnamed
      by_cases hdriven : ∃ driver values,
          Driven constraints kind p label driver ∧ driver.ProbesFor values
      · obtain ⟨driver, values, hdriver, hvalues⟩ := hdriven
        rw [findIndex_calls_of_driven hdriver hvalues]
        exact .indexes hdriver hvalues
      · have hnone : ∀ driver values, Driven constraints kind p label driver →
            ¬ driver.ProbesFor values :=
          fun driver values hd hv => hdriven ⟨driver, values, hd, hv⟩
        rw [findIndex_calls_of_not_driven hlabel hnone]
        exact .keys hlabel hnone
    · have hnone : ∀ label, ¬ NamesClass constraints label := fun label h => hnamed ⟨label, h⟩
      rw [findIndex_calls_of_unnamed hnone]
      exact .nothing hnone
  · intro h
    cases h with
    | nothing hnone => exact findIndex_calls_of_unnamed hnone
    | keys hlabel hnone => exact findIndex_calls_of_not_driven hlabel hnone
    | indexes hdriven hvalues => exact findIndex_calls_of_driven hdriven hvalues

theorem Asks.isPrefix {calls : List Call} (h : Asks constraints kind p calls) :
    ∃ label, calls <+: [.indexedKeys kind label, .className kind label,
      .classIndexes (p.className kind label)] := by
  cases h with
  | nothing => exact ⟨"", List.nil_prefix⟩
  | @keys label => exact ⟨label, List.prefix_append [_] _⟩
  | @indexes label => exact ⟨label, List.prefix_refl _⟩

/-! ## The plan -/

/-- The path that the outcome of the search for an index stands for. -/
def pathOf : Option IndexQuery → AccessPath
  | some query => .byIndex query
  | none => .fullScan

theorem plan_result (config : PlannerConfig) (constraints : List Constraint)
    (ids : List ElementId) (kind : ElementKind) (p : Provider) :
    (plan config constraints ids kind p).result =
      if ids = [] then (findIndex constraints kind p).result.map pathOf
      else .ok (.byId ids) := by
  unfold plan
  cases ids with
  | cons id rest => rfl
  | nil =>
      simp only [List.isEmpty_nil, if_true, Run.result_bind]
      cases (findIndex constraints kind p).result with
      | error f => rfl
      | ok query =>
          cases query with
          | some query => rfl
          | none => cases h : config.warnOnFullScan <;> simp [Except.map, pathOf]

theorem plan_calls (config : PlannerConfig) (constraints : List Constraint)
    (ids : List ElementId) (kind : ElementKind) (p : Provider) :
    (plan config constraints ids kind p).calls =
      if ids = [] then (findIndex constraints kind p).calls else [] := by
  unfold plan
  cases ids with
  | cons id rest => rfl
  | nil =>
      simp only [List.isEmpty_nil, if_true]
      cases hquery : (findIndex constraints kind p).result with
      | error f => exact Run.calls_bind_of_error hquery _
      | ok query =>
          rw [Run.calls_bind_of_ok hquery]
          cases query with
          | some query => exact List.append_nil _
          | none => cases config.warnOnFullScan <;> exact List.append_nil _

/-- For every engine, whatever it answers, a plan is the lookup of exactly the
identifiers that are given, asking nothing; without identifiers it is the probe
that is found, it fails with the failure by which the search breaks, and it is
to read everything in all other cases. Of three questions to the engine the
first ones are asked, in their order and once each. -/
theorem plan_iff (config : PlannerConfig) (constraints : List Constraint)
    (ids : List ElementId) (kind : ElementKind) (p : Provider) :
    (∀ ids', (plan config constraints ids kind p).result = .ok (.byId ids') ↔
      ids ≠ [] ∧ ids' = ids) ∧
    (∀ q, (plan config constraints ids kind p).result = .ok (.byIndex q) ↔
      ids = [] ∧ Finds constraints kind p q) ∧
    (∀ f, (plan config constraints ids kind p).result = .error f ↔
      ids = [] ∧ Breaks constraints kind p f) ∧
    ((plan config constraints ids kind p).result = .ok .fullScan ↔
      ids = [] ∧ (∀ q, ¬ Finds constraints kind p q) ∧ ∀ f, ¬ Breaks constraints kind p f) ∧
    (∃ label, (plan config constraints ids kind p).calls <+: [.indexedKeys kind label,
      .className kind label, .classIndexes (p.className kind label)]) ∧
    ∀ calls, (plan config constraints ids kind p).calls = calls ↔
      ids ≠ [] ∧ calls = [] ∨ ids = [] ∧ Asks constraints kind p calls := by
  rw [plan_result, plan_calls]
  have hprefix := (findIndex_calls_iff.mp rfl : Asks constraints kind p _).isPrefix
  by_cases hids : ids = []
  · simp only [hids, if_true, hprefix, ne_eq, not_true_eq_false, false_and, true_and, false_or,
      ← findIndex_calls_iff, ← findIndex_eq_some_iff, ← findIndex_eq_error_iff]
    cases (findIndex constraints kind p).result with
    | error f => simp [Except.map]
    | ok query => cases query <;> simp [Except.map, pathOf]
  · simp [hids, eq_comm]

end Planner

end StartStep
