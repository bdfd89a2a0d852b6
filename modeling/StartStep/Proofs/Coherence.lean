import Mathlib.Data.List.Nodup
import Mathlib.Logic.Relation
import StartStep.Proofs.Listing

/-!
# Plans outlive the graph they were made for

The planner asks a graph two questions about its indexes and trusts that the
answers fit: a key that the first answer names should be covered by an index of
the second. Both answers are read off the same list, one by gathering fields
and one by keeping indexes, so they do fit, and the planner never finds a key
indexed that no index covers.

A plan is made at one time and followed at another. What a probe checks, that
the index is defined and covers the key, is true of a chosen probe when it is
chosen, and it stays true because indexes are only ever added behind the ones
that are there (`Grows.indexes`). No later index can take the place of the
chosen one either, since a name that is taken is refused. What is left to
refuse a planned probe is a fault (`metadata_coherent`).
-/

namespace StartStep

namespace MemGraph

/-! ## The two answers about indexes -/

/-- The keys said to be indexed are those that an index of the class covers. -/
theorem mem_indexedKeys_iff {g : MemGraph} {name key : String} :
    key ∈ sortedSet ((g.indexesOf name).flatMap (·.fields)) ↔
      ∃ index ∈ g.indexesOf name, index.covers key = true := by
  rw [mem_sortedSet, List.mem_flatMap]
  refine exists_congr fun index => and_congr_right fun _ => ?_
  exact List.contains_iff_mem.symm

theorem indexMissed_not_mem (g : MemGraph) (constraints : List Constraint)
    (kind : ElementKind) (name key : String) :
    .indexMissed name key ∉ (Planner.findIndex constraints kind g.provider).events := by
  intro hmissed
  obtain ⟨label, keys, indexes, hkeys, hindexes, hkey, hnone⟩ :=
    Planner.exists_of_indexMissed hmissed
  obtain ⟨-, -, hkeys⟩ := bind_eq_ok.mp hkeys
  obtain ⟨-, -, hindexes⟩ := bind_eq_ok.mp hindexes
  cases hkeys
  cases hindexes
  obtain ⟨index, hindex, hcovers⟩ := mem_indexedKeys_iff.mp hkey
  have hnot := hnone index hindex
  rw [hcovers] at hnot
  simp at hnot

/-! ## Growing -/

/-- What is defined stays where it is, whatever is added. -/
theorem Grows.indexes {g g' : MemGraph} (h : Grows g g') : g.indexes <+: g'.indexes := by
  cases h with
  | insert e =>
      simp only [indexes_insert, List.prefix_refl]
  | createIndex index h =>
      obtain ⟨-, -, rfl⟩ := createIndex_eq_ok_iff.mp h
      exact List.prefix_append _ _
  | withIndex name kind label fields h =>
      obtain ⟨-, -, rfl⟩ := createIndex_eq_ok_iff.mp h
      exact List.prefix_append _ _
  | called calls => exact List.prefix_refl _

theorem Reachable.later {g g' : MemGraph} (hg : g.Reachable)
    (h : Relation.ReflTransGen Grows g g') : g'.Reachable := by
  induction h with
  | refl => exact hg
  | tail _ hstep ih => exact ih.grows hstep

theorem indexes_prefix_of_later {g g' : MemGraph} (h : Relation.ReflTransGen Grows g g') :
    g.indexes <+: g'.indexes := by
  induction h with
  | refl => exact List.prefix_refl _
  | tail _ hstep ih => exact ih.trans hstep.indexes

/-! ## Planned probes -/

/-- A planned probe is one of an index that is defined and covers the key. -/
theorem mem_indexes_of_plan {g : MemGraph} {config : PlannerConfig}
    {constraints : List Constraint} {ids : List ElementId} {kind : ElementKind}
    {q : IndexQuery}
    (h : (Planner.plan config constraints ids kind g.provider).result = .ok (.byIndex q)) :
    q.index ∈ g.indexes ∧ q.index.covers q.key = true := by
  rw [Planner.plan_result] at h
  split at h
  · obtain ⟨query, hquery, hpath⟩ := exists_of_map_eq_ok h
    cases query with
    | none => cases hpath
    | some q' =>
        cases hpath
        obtain ⟨_, _, _, indexes, -, -, -, -, -, hindexes, hmem, hcovers⟩ :=
          Planner.exists_of_findIndex hquery
        exact ⟨(mem_of_provider_classIndexes hindexes hmem).1, hcovers⟩
  · cases Except.ok.inj h

/-- On a graph whose questions about indexes are answered, the keys said to be
indexed for a label are those that an index of its class covers, so that no
index is ever missed. A planned probe is accepted, on the graph and on every
later one: its index is there under its name and no other has that name, and
unless probes are made to fail it streams what it finds. -/
theorem metadata_coherent {g : MemGraph} (hg : g.Reachable)
    (hf : g.fault ≠ some .metadata) :
    (∀ kind label, ∃ keys indexes, g.provider.indexedKeys kind label = .ok keys ∧
      g.provider.classIndexes (g.provider.className kind label) = .ok indexes ∧
      ∀ key, key ∈ keys ↔ ∃ index ∈ indexes, index.covers key = true) ∧
    (∀ constraints kind name key, .indexMissed name key ∉
      (Planner.findIndex constraints kind g.provider).events) ∧
    ∀ config constraints ids kind q,
      (Planner.plan config constraints ids kind g.provider).result = .ok (.byIndex q) →
      ∀ g', Relation.ReflTransGen Grows g g' →
        (∀ index, index ∈ g'.indexes ∧ index.name = q.index.name ↔ index = q.index) ∧
        g'.provider.probe q.index q.key q.values =
          if g'.fault = some .probe then .error (.storage "injected Probe failure")
          else .ok (g'.stream (g'.hits q.index q.key q.values)) := by
  refine ⟨fun kind label => ?_, g.indexMissed_not_mem, fun config constraints ids kind q hplan
    g' hlater => ?_⟩
  · exact ⟨_, _, provider_indexedKeys hf label, provider_classIndexes hf _,
      fun key => mem_indexedKeys_iff⟩
  · obtain ⟨hindex, hcovers⟩ := mem_indexes_of_plan hplan
    have hindex' : q.index ∈ g'.indexes := (indexes_prefix_of_later hlater).subset hindex
    constructor
    · intro index
      constructor
      · rintro ⟨hmem, hname⟩
        exact List.inj_on_of_nodup_map (hg.later hlater).indexed.1 hmem hindex' hname
      · rintro rfl
        exact ⟨hindex', rfl⟩
    · rw [provider_probe hindex' hcovers]
      unfold guardFault
      split <;> rfl

/-- A probe planned for two persons finds a third who has come since, although
indexes have come as well. -/
theorem metadata_coherent_people :
    let cleo : Element := .named 3 "Person" "Cleo"
    let town := labelIndex "by town" .vertex "Person" ["town", "name"]
    let later := { people.insert cleo with indexes := people.indexes ++ [town] }
    people.Reachable ∧ people.fault ≠ some .metadata ∧
      Relation.ReflTransGen Grows people later ∧
      ∃ q, (Planner.plan {} [.label "Person", .eq "name" (.string "Cleo")] [] .vertex
          people.provider).result = .ok (.byIndex q) ∧
        later.provider.probe q.index q.key q.values = .ok [.ok cleo] := by
  intro cleo town later
  have hlater : Relation.ReflTransGen Grows people later :=
    (Relation.ReflTransGen.single (.insert people cleo)).tail
      (.withIndex "by town" .vertex "Person" ["town", "name"] rfl)
  have hf : people.fault ≠ some .metadata := fault_ne rfl _
  have hplan : (Planner.plan {} [.label "Person", .eq "name" (.string "Cleo")] [] .vertex
      people.provider).result = .ok (.byIndex
        ⟨labelIndex "by name" .vertex "Person" ["name"], "name", [.string "Cleo"]⟩) := rfl
  obtain ⟨-, -, hprobe⟩ := metadata_coherent people_reachable hf
  refine ⟨people_reachable, hf, hlater, _, hplan, ?_⟩
  rw [(hprobe _ _ _ _ _ hplan later hlater).2]
  rfl

end MemGraph

end StartStep
