import StartStep.Proofs.Resolution
import StartStep.Proofs.Stored

/-!
# What a step lists

On a graph without a fault a step that is planned lists what its path says, in
an order and with repetitions that can be written down from the stored elements
alone (`listing`). Two of the three paths are immediate. The third is the probe.
It walks both kinds and recognises its elements by the name of their class,
whereas the listing speaks of the elements of the step's own kind that satisfy
every constraint, and of no class at all. The two agree because the label that
the class was taken from is itself a constraint: an element that satisfies all
of them has that label, so testing the candidates leaves the same elements
whether or not the probe has looked at their class (`filter_hits`).

`resolve_eq_listing` is the result for a step whose membership constraints have
lists: nothing can fail, and the list is known. For other steps the same is
said of the plans that are made and the elements that can be tested
(`resolve_of_plan`).
-/

namespace StartStep

namespace MemGraph

/-- What a step on a path lists, from the stored elements of its kind. -/
def listing (stored : List Element) (constraints : List Constraint) :
    AccessPath → List Element
  | .byId ids =>
      (ids.filterMap fun id => stored.find? (·.id == id)).filter (Satisfies constraints)
  | .byIndex query =>
      query.values.flatMap fun value =>
        stored.filter fun e => Satisfies constraints e ∧ e.carries query.key value
  | .fullScan => stored.filter (Satisfies constraints)

/-- What the graph streams for a path. -/
def candidates (g : MemGraph) (kind : ElementKind) : AccessPath → List Element
  | .byId ids => ids.filterMap fun id => (g.stored kind).find? (·.id == id)
  | .byIndex query => g.hits query.index query.key query.values
  | .fullScan => g.stored kind

section Planned

variable {g : MemGraph} {s : Step}

/-! ## The probe -/

/-- A chosen probe is one of an index of the graph, on the class of the label
that the constraints name. -/
theorem exists_of_findIndex {q : IndexQuery}
    (h : (s.attach g.provider).findIndex.result = .ok (some q)) :
    ∃ label, classLabel s.constraints = some label ∧ q.index ∈ g.indexes ∧
      q.index.className = className s.kind label ∧ q.index.covers q.key = true := by
  rw [Step.attach_findIndex_result] at h
  obtain ⟨label, _, _, indexes, hlabel, -, -, -, -, hindexes, hmem, hcovers⟩ :=
    Planner.exists_of_findIndex h
  obtain ⟨hindex, hname⟩ := mem_of_provider_classIndexes hindexes hmem
  exact ⟨label, hlabel, hindex, hname, hcovers⟩

/-- Testing what a probe finds leaves the stored elements that satisfy the
constraints, once for every probed value that they have. -/
theorem filter_hits {kind : ElementKind} {constraints : List Constraint} {index : Index}
    {label : String} (hg : g.Filed) (hlabel : classLabel constraints = some label)
    (hclass : index.className = className kind label) (key : String)
    (values : List Value) :
    (g.hits index key values).filter (Satisfies constraints) =
      values.flatMap fun value =>
        (g.stored kind).filter fun e => Satisfies constraints e ∧ e.carries key value := by
  rw [hits_eq hg hclass, List.filter_flatMap]
  congr 1
  funext value
  rw [List.filter_filter]
  refine List.filter_congr fun e _ => ?_
  by_cases hs : Satisfies constraints e
  · have he : e.label = label := label_eq_of_satisfies hlabel hs
    simp [hs, he]
  · simp [hs]

/-! ## Every path -/

/-- The graph accepts the request of a planned path. -/
theorem answer_of_plan (hg : g.Filed) (hf : g.fault = none) {path : AccessPath}
    (h : (s.attach g.provider).plan.result = .ok path) :
    path.answer s.kind g.provider = .ok ((g.candidates s.kind path).map .ok) := by
  obtain ⟨-, rfl⟩ | ⟨-, query, hquery, rfl⟩ := Step.exists_of_attach_plan h
  · exact provider_lookup hg hf s.ids
  · cases query with
    | none => exact provider_scan hf
    | some q =>
        obtain ⟨_, -, hindex, -, hcovers⟩ := exists_of_findIndex hquery
        show g.provider.probe q.index q.key q.values = _
        rw [provider_probe hindex hcovers, guardFault_eq_ok (fault_ne hf _), stream_eq hf]
        rfl

/-- Only stored elements of the step's kind are streamed. -/
theorem mem_stored_of_mem_candidates (hg : g.Filed) {path : AccessPath}
    (h : (s.attach g.provider).plan.result = .ok path) {e : Element}
    (he : e ∈ g.candidates s.kind path) : e ∈ g.stored s.kind := by
  obtain ⟨-, rfl⟩ | ⟨-, query, hquery, rfl⟩ := Step.exists_of_attach_plan h
  · obtain ⟨id, -, hid⟩ := List.mem_filterMap.mp he
    exact List.mem_of_find?_eq_some hid
  · cases query with
    | none => exact he
    | some q =>
        obtain ⟨label, -, -, hclass, -⟩ := exists_of_findIndex hquery
        rw [Planner.pathOf, candidates, hits_eq hg hclass] at he
        obtain ⟨value, -, hvalue⟩ := List.mem_flatMap.mp he
        exact (List.mem_filter.mp hvalue).1

theorem filter_candidates (hg : g.Filed) {path : AccessPath}
    (h : (s.attach g.provider).plan.result = .ok path) :
    (g.candidates s.kind path).filter (Satisfies s.constraints) =
      listing (g.stored s.kind) s.constraints path := by
  obtain ⟨-, rfl⟩ | ⟨-, query, hquery, rfl⟩ := Step.exists_of_attach_plan h
  · rfl
  · cases query with
    | none => rfl
    | some q =>
        obtain ⟨label, hlabel, -, hclass, -⟩ := exists_of_findIndex hquery
        exact filter_hits hg hlabel hclass q.key q.values

/-- A step that is resolved was planned, and lists what its path says. -/
theorem exists_of_attach_resolve (hg : g.Filed) (hf : g.fault = none) {r : Resolution}
    (h : (s.attach g.provider).resolve.result = .ok r) :
    ∃ path, (s.attach g.provider).plan.result = .ok path ∧
      r.elements = listing (g.stored s.kind) s.constraints path := by
  rw [Step.attach_resolve_result_eq_bind] at h
  obtain ⟨path, hplan, h⟩ := bind_eq_ok.mp h
  obtain ⟨found, hfound, rfl, -⟩ := Resolver.exists_of_resolve h
  have hcandidates : found.map Except.ok = (g.candidates s.kind path).map Except.ok :=
    Except.ok.inj (hfound.symm.trans (answer_of_plan hg hf hplan))
  have hfound : found = g.candidates s.kind path :=
    (List.map_inj_right fun _ _ h => Except.ok.inj h).mp hcandidates
  refine ⟨path, hplan, ?_⟩
  rw [← filter_candidates hg hplan, ← hfound]

/-- A planned step whose elements can be tested does not fail, and lists what
its path says. -/
theorem resolve_of_plan (hg : g.Filed) (hf : g.fault = none) {path : AccessPath}
    (hplan : (s.attach g.provider).plan.result = .ok path)
    (htest : ∀ e ∈ g.stored s.kind, Testable s.constraints e) :
    ∃ r, (s.attach g.provider).resolve.result = .ok r ∧
      r.elements = listing (g.stored s.kind) s.constraints path := by
  rw [Step.attach_resolve_result hplan]
  have hcandidates : ∀ e ∈ g.candidates s.kind path, Testable s.constraints e :=
    fun e he => htest e (mem_stored_of_mem_candidates hg hplan he)
  exact ⟨_, Resolver.resolve_elements (answer_of_plan hg hf hplan) hcandidates,
    filter_candidates hg hplan⟩

/-- The search for an index on a graph without a fault comes to an end. -/
theorem findIndex_ok (hf : g.fault = none)
    (hconstraints : ∀ c ∈ s.constraints, c.WellFormed) :
    ∃ query, (s.attach g.provider).findIndex.result = .ok query := by
  rw [Step.attach_findIndex_result]
  exact Planner.findIndex_ok hconstraints
    (fun label => ⟨_, provider_indexedKeys (fault_ne hf _) label⟩)
    (fun label => ⟨_, provider_classIndexes (fault_ne hf _) (className s.kind label)⟩)

end Planned

/-- A step whose membership constraints have lists finds on a graph without a
fault: for identifiers, what is stored under each in turn; for a chosen probe,
what has each of its values in turn; else everything stored; of all this what
satisfies the constraints. What is stored is read by increasing identifiers. -/
theorem resolve_eq_listing {g : MemGraph} {s : Step} (hg : g.Reachable)
    (hf : g.fault = none) (hconstraints : ∀ c ∈ s.constraints, c.WellFormed) :
    (g.stored s.kind).Pairwise (·.id < ·.id) ∧
      ∃ query r, (s.attach g.provider).findIndex.result = .ok query ∧
        (s.attach g.provider).resolve.result = .ok r ∧
        (s.ids ≠ [] → r.elements =
          (s.ids.filterMap fun id => (g.stored s.kind).find? (·.id == id)).filter
            (Satisfies s.constraints)) ∧
        (s.ids = [] → ∀ q, query = some q → r.elements =
          q.values.flatMap fun value => (g.stored s.kind).filter
            fun e => Satisfies s.constraints e ∧ e.carries q.key value) ∧
        (s.ids = [] → query = none →
          r.elements = (g.stored s.kind).filter (Satisfies s.constraints)) := by
  refine ⟨hg.filed.stored_increasing s.kind, ?_⟩
  obtain ⟨query, hquery⟩ := findIndex_ok hf hconstraints
  have htest : ∀ e ∈ g.stored s.kind, Testable s.constraints e :=
    fun e _ => testAll_of_wellFormed hconstraints e
  by_cases hids : s.ids = []
  · have hplan : (s.attach g.provider).plan.result = .ok (Planner.pathOf query) := by
      rw [Step.attach_plan_result, if_pos hids, hquery]
      rfl
    obtain ⟨r, hr, hlist⟩ := resolve_of_plan hg.filed hf hplan htest
    refine ⟨query, r, hquery, hr, fun h => absurd hids h, fun _ q hq => ?_, fun _ hq => ?_⟩
    · rw [hlist, hq]; rfl
    · rw [hlist, hq]; rfl
  · have hplan : (s.attach g.provider).plan.result = .ok (.byId s.ids) := by
      rw [Step.attach_plan_result, if_neg hids]
    obtain ⟨r, hr, hlist⟩ := resolve_of_plan hg.filed hf hplan htest
    exact ⟨query, r, hquery, hr, fun _ => hlist, fun h => absurd h hids,
      fun h => absurd h hids⟩

/-- Two persons and an index on their names. -/
def people : MemGraph :=
  { (empty.insert (.named 1 "Person" "Ada")).insert (.named 2 "Person" "Ben") with
    indexes := [labelIndex "by name" .vertex "Person" ["name"]] }

theorem people_reachable : people.Reachable := by
  have hada := Reachable.empty.grows (.insert empty (.named 1 "Person" "Ada"))
  have hben := hada.grows (.insert _ (.named 2 "Person" "Ben"))
  exact hben.grows (.withIndex "by name" .vertex "Person" ["name"] rfl)

/-- The names asked for decide the order, and a name asked for twice is found
twice. -/
theorem resolve_eq_listing_people :
    let s := ((Step.new .vertex []).has (.label "Person")).has
      (.within "name" [.string "Ben", .string "Ada", .string "Ben"])
    people.Reachable ∧ people.fault = none ∧ (∀ c ∈ s.constraints, c.WellFormed) ∧
      ∃ r, (s.attach people.provider).resolve.result = .ok r ∧
        r.elements = [.named 2 "Person" "Ben", .named 1 "Person" "Ada",
          .named 2 "Person" "Ben"] := by
  intro s
  have hconstraints : ∀ c ∈ s.constraints, c.WellFormed := by decide
  obtain ⟨-, query, r, hquery, hr, -, hprobe, -⟩ :=
    resolve_eq_listing people_reachable rfl hconstraints
  have hchosen : query = some ⟨labelIndex "by name" .vertex "Person" ["name"], "name",
      [.string "Ben", .string "Ada", .string "Ben"]⟩ :=
    (Except.ok.inj hquery).symm
  refine ⟨people_reachable, rfl, hconstraints, r, hr, ?_⟩
  rw [hprobe rfl _ hchosen]
  rfl

end MemGraph

end StartStep
