import Mathlib.Data.List.Nodup
import StartStep.Proofs.Listing

/-!
# What indexes change about a result

An index should change how a result is found and never what is found. This file
says how far that is so. `AskedFor` is the result as it would be without any
planning: the stored elements of the step's kind, among the identifiers if
there are some, that satisfy every constraint. Nothing else is ever found, and
a lookup or a full read finds all of it. A probe finds the part of it that has
one of the probed values as a property under the probed key
(`mem_listing_iff`), and this is all of it if the driving constraint was about
that property.

The driving constraint need not be about a property. An index may name a
reserved key among its fields, and then a constraint on the label or on the
identifier drives a probe for a property of that name, which the elements asked
for need not have. They are lost: `resolve_complete_iff` gives the exact
condition, and `resolve_incomplete` a graph of one vertex on which a step that
asks for this vertex finds nothing.
-/

namespace StartStep

namespace MemGraph

/-- The element belongs to the result of a step, however it is found. -/
def AskedFor (g : MemGraph) (s : Step) (e : Element) : Prop :=
  e ∈ g.stored s.kind ∧ (s.ids ≠ [] → e.id ∈ s.ids) ∧ Satisfies s.constraints e

/-! ## Identifiers -/

theorem Filed.ids_nodup {g : MemGraph} (h : g.Filed) (kind : ElementKind) :
    ((g.stored kind).map (·.id)).Nodup :=
  List.pairwise_map.mpr ((h.stored_increasing kind).imp UInt64.ne_of_lt)

/-- What is found under an identifier is the one stored element that has it. -/
theorem find?_id_eq_some_iff {stored : List Element}
    (h : (stored.map (·.id)).Nodup) {id : ElementId} {e : Element} :
    stored.find? (·.id == id) = some e ↔ e ∈ stored ∧ e.id = id := by
  constructor
  · intro he
    have hid := List.find?_some he
    exact ⟨List.mem_of_find?_eq_some he, beq_iff_eq.mp hid⟩
  · rintro ⟨he, rfl⟩
    cases hfind : stored.find? (·.id == e.id) with
    | none => exact absurd (beq_self_eq_true e.id) (List.find?_eq_none.mp hfind e he)
    | some x =>
        have hid := List.find?_some hfind
        rw [List.inj_on_of_nodup_map h (List.mem_of_find?_eq_some hfind) he
          (beq_iff_eq.mp hid)]

/-! ## What is found and what is lost -/

section Planned

variable {g : MemGraph} {s : Step} {path : AccessPath}

/-- A planned step finds what is asked for, except that a probe needs the
probed property. -/
theorem mem_listing_iff (hg : g.Filed) (hplan : (s.attach g.provider).plan.result = .ok path)
    {e : Element} :
    e ∈ listing (g.stored s.kind) s.constraints path ↔
      g.AskedFor s e ∧
        ∀ q, path = .byIndex q → ∃ v ∈ q.values, e.carries q.key v = true := by
  unfold AskedFor
  obtain ⟨hids, rfl⟩ | ⟨hids, query, -, rfl⟩ := Step.exists_of_attach_plan hplan
  · simp only [listing, List.mem_filter, List.mem_filterMap,
      find?_id_eq_some_iff (hg.ids_nodup s.kind), decide_eq_true_eq]
    constructor
    · rintro ⟨⟨id, hid, he, rfl⟩, hs⟩
      exact ⟨⟨he, fun _ => hid, hs⟩, fun q hq => by cases hq⟩
    · rintro ⟨⟨he, hid, hs⟩, -⟩
      exact ⟨⟨e.id, hid hids, he, rfl⟩, hs⟩
  · cases query with
    | none =>
        simp only [Planner.pathOf, listing, List.mem_filter, decide_eq_true_eq]
        constructor
        · rintro ⟨he, hs⟩
          exact ⟨⟨he, fun h => absurd hids h, hs⟩, fun q hq => by cases hq⟩
        · rintro ⟨⟨he, -, hs⟩, -⟩
          exact ⟨he, hs⟩
    | some q =>
        simp only [Planner.pathOf, listing, List.mem_flatMap, List.mem_filter,
          decide_eq_true_eq]
        constructor
        · rintro ⟨v, hv, he, hs, hcarries⟩
          refine ⟨⟨he, fun h => absurd hids h, hs⟩, fun q' hq => ?_⟩
          cases hq
          exact ⟨v, hv, hcarries⟩
        · rintro ⟨⟨he, -, hs⟩, hprobe⟩
          obtain ⟨v, hv, hcarries⟩ := hprobe q rfl
          exact ⟨v, hv, he, hs, hcarries⟩

/-- A probe for a property loses nothing. -/
theorem carries_of_askedFor (hplan : (s.attach g.provider).plan.result = .ok path)
    {q : IndexQuery} (hpath : path = .byIndex q) (hkey : KeyKind.ofKey q.key = .property)
    {e : Element} (he : g.AskedFor s e) : ∃ v ∈ q.values, e.carries q.key v = true := by
  obtain ⟨-, rfl⟩ | ⟨-, query, hquery, rfl⟩ := Step.exists_of_attach_plan hplan
  · cases hpath
  · cases query with
    | none => cases hpath
    | some q' =>
        cases hpath
        rw [Step.attach_findIndex_result] at hquery
        exact Planner.carries_of_findIndex hquery hkey he.2.2

end Planned

/-- A planned step whose elements can be tested does not fail and finds nothing
that is not asked for. It finds everything that is asked for unless it probes
for a reserved key, and then it does so exactly if everything asked for has a
property of that name with one of the probed values. -/
theorem resolve_complete_iff {g : MemGraph} {s : Step} {path : AccessPath}
    (hg : g.Reachable) (hf : g.fault = none)
    (hplan : (s.attach g.provider).plan.result = .ok path)
    (htest : ∀ e ∈ g.stored s.kind, Testable s.constraints e) :
    ∃ r, (s.attach g.provider).resolve.result = .ok r ∧
      (∀ e ∈ r.elements, g.AskedFor s e) ∧
      ((∀ e, e ∈ r.elements ↔ g.AskedFor s e) ↔
        ∀ q, path = .byIndex q → KeyKind.ofKey q.key ≠ .property →
          ∀ e, g.AskedFor s e → ∃ v ∈ q.values, e.carries q.key v = true) := by
  obtain ⟨r, hr, hlist⟩ := resolve_of_plan hg.filed hf hplan htest
  refine ⟨r, hr, fun e he => ?_, ?_⟩
  · rw [hlist, mem_listing_iff hg.filed hplan] at he
    exact he.1
  · simp only [hlist, mem_listing_iff hg.filed hplan]
    constructor
    · intro hall q hpath _ e he
      exact ((hall e).mpr he).2 q hpath
    · intro hreserved e
      refine ⟨And.left, fun he => ⟨he, fun q hpath => ?_⟩⟩
      by_cases hkey : KeyKind.ofKey q.key = .property
      · exact carries_of_askedFor hplan hpath hkey he
      · exact hreserved q hpath hkey e he

theorem resolve_complete_iff_people :
    let s := ((Step.new .vertex []).has (.label "Person")).has
      (.within "name" [.string "Ben", .int 3])
    people.Reachable ∧ people.fault = none ∧
      (∃ q, (s.attach people.provider).plan.result = .ok (.byIndex q)) ∧
      (∀ e ∈ people.stored s.kind, Testable s.constraints e) ∧
      ∃ r, (s.attach people.provider).resolve.result = .ok r ∧
        ∀ e, e ∈ r.elements ↔ people.AskedFor s e := by
  intro s
  have hplan : (s.attach people.provider).plan.result = .ok (.byIndex
      ⟨labelIndex "by name" .vertex "Person" ["name"], "name", [.string "Ben", .int 3]⟩) :=
    rfl
  have htest : ∀ e ∈ people.stored s.kind, Testable s.constraints e :=
    fun e _ => testAll_of_wellFormed (by decide) e
  obtain ⟨r, hr, -, hiff⟩ := resolve_complete_iff people_reachable rfl hplan htest
  refine ⟨people_reachable, rfl, ⟨_, hplan⟩, htest, r, hr, hiff.mpr fun q hq hkey => ?_⟩
  cases hq
  exact absurd (by decide) hkey

/-- One vertex and an index on identifiers. -/
def numbered : MemGraph :=
  { empty.insert (.named 1 "Person" "Ada") with
    indexes := [labelIndex "by number" .vertex "Person" [idKey]] }

theorem numbered_reachable : numbered.Reachable := by
  have hada := Reachable.empty.grows (.insert empty (.named 1 "Person" "Ada"))
  exact hada.grows (.withIndex "by number" .vertex "Person" [idKey] rfl)

/-- The vertex is asked for by its label and its identifier, and is not found. -/
theorem resolve_incomplete :
    let s := ((Step.new .vertex []).has (.label "Person")).has (.eq idKey (.int 1))
    numbered.Reachable ∧ numbered.fault = none ∧
      (∃ path, (s.attach numbered.provider).plan.result = .ok path) ∧
      (∀ e ∈ numbered.stored s.kind, Testable s.constraints e) ∧
      ¬ ∃ r, (s.attach numbered.provider).resolve.result = .ok r ∧
        ∀ e, e ∈ r.elements ↔ numbered.AskedFor s e := by
  intro s
  have htest : ∀ e ∈ numbered.stored s.kind, Testable s.constraints e :=
    fun e _ => testAll_of_wellFormed (by decide) e
  refine ⟨numbered_reachable, rfl, ⟨_, rfl⟩, htest, ?_⟩
  rintro ⟨r, hr, hall⟩
  have hnothing : r.elements = [] := by
    cases hr
    rfl
  have hasked : numbered.AskedFor s (.named 1 "Person" "Ada") :=
    ⟨List.mem_singleton_self _, fun h => absurd rfl h, by decide⟩
  rw [← hall, hnothing] at hasked
  exact List.not_mem_nil hasked

end MemGraph

end StartStep
