import Mathlib.Data.List.Sort
import StartStep.Proofs.History

/-!
# The order of building does not matter

A graph is built by storing elements and defining indexes, and two ways to build
it may mix the two differently and may store elements that are replaced later.
What is left of all this is little. A map is known from what is found in it,
because its entries stand in the order of their keys (`SortedMap.ext_get?`), so
of the elements only the last one under each kind and identifier counts. A
definition of an index looks at the indexes and at nothing else, so it is granted
or refused alike wherever elements are stored in between; and storing an element
never looks at the indexes. Hence two ways to build that agree on the last elements
and on the definitions end in one and the same graph, and no question can tell
them apart (`answerAll_build_order`).
-/

namespace StartStep

/-! ## Maps with the same content -/

namespace SortedMap

variable {κ ν : Type} [Ord κ] [Std.LawfulEqOrd κ]

theorem keys_nodup (m : SortedMap κ ν) : (m.entries.map (·.1)).Nodup := by
  refine List.pairwise_map.mpr (m.increasing.imp ?_)
  intro a b hab heq
  rw [heq, Std.compare_self] at hab
  cases hab

theorem mem_entries_iff {m : SortedMap κ ν} {k : κ} {v : ν} :
    (k, v) ∈ m.entries ↔ m.get? k = some v := by
  unfold get?
  constructor
  · intro h
    cases hfind : m.entries.find? fun e => compare e.1 k == .eq with
    | none =>
        have hself := List.find?_eq_none.mp hfind _ h
        rw [Std.compare_self] at hself
        exact absurd rfl hself
    | some e =>
        have hkey := List.find?_some hfind
        have hkey : e.1 = k := Std.compare_eq_iff_eq.mp (beq_iff_eq.mp hkey)
        have he : e = (k, v) :=
          List.inj_on_of_nodup_map m.keys_nodup (List.mem_of_find?_eq_some hfind) h hkey
        rw [he, Option.map_some]
  · intro h
    obtain ⟨e, hfind, rfl⟩ := Option.map_eq_some_iff.mp h
    have hkey := List.find?_some hfind
    have hkey : e.1 = k := Std.compare_eq_iff_eq.mp (beq_iff_eq.mp hkey)
    rw [← hkey]
    exact List.mem_of_find?_eq_some hfind

variable [Std.TransOrd κ]

/-- Maps in which the same is found under every key are the same. -/
theorem ext_get? {m m' : SortedMap κ ν} (h : ∀ k, m.get? k = m'.get? k) : m = m' := by
  have hentries : m.entries = m'.entries := by
    have : Std.Irrefl fun a b : κ × ν => compare a.1 b.1 = .lt :=
      ⟨fun a => by rw [Std.compare_self]; simp⟩
    have : Std.Antisymm fun a b : κ × ν => compare a.1 b.1 = .lt := by
      refine ⟨fun a b hab hba => ?_⟩
      rw [Std.OrientedCmp.gt_of_lt hab] at hba
      cases hba
    refine List.Pairwise.eq_of_mem_iff m.increasing m'.increasing fun e => ?_
    rw [mem_entries_iff, mem_entries_iff, h]
  obtain ⟨entries, _⟩ := m
  obtain ⟨entries', _⟩ := m'
  cases hentries
  rfl

theorem insert_comm [DecidableEq κ] (m : SortedMap κ ν) {k k' : κ} (h : k ≠ k') (v v' : ν) :
    (m.insert k v).insert k' v' = (m.insert k' v').insert k v := by
  refine ext_get? fun i => ?_
  rw [get?_insert, get?_insert, get?_insert, get?_insert]
  by_cases hk : k = i
  · rw [if_pos hk, if_neg fun hk' => h (hk.trans hk'.symm), if_pos hk]
  · rw [if_neg hk, if_neg hk]

end SortedMap

namespace MemGraph

/-! ## Single additions -/

theorem insert_insert_comm (g : MemGraph) {e e' : Element}
    (h : ¬ (e.kind = e'.kind ∧ e.id = e'.id)) :
    (g.insert e).insert e' = (g.insert e').insert e := by
  unfold MemGraph.insert
  cases he : e.kind <;> cases he' : e'.kind
  case vertex.vertex | edge.edge =>
    have hid : e.id ≠ e'.id := fun hid => h ⟨he.trans he'.symm, hid⟩
    simp only [SortedMap.insert_comm _ hid]
  case vertex.edge | edge.vertex => rfl

theorem createIndex_insert (g : MemGraph) (e : Element) (index : Index) :
    (g.insert e).createIndex index = (g.createIndex index).map (·.insert e) := by
  unfold MemGraph.insert MemGraph.createIndex
  cases e.kind with
  | vertex | edge =>
      dsimp only
      split
      · rfl
      · split
        · rfl
        · rfl

/-- Whether an index can be defined is read off the indexes alone. -/
theorem createIndex_congr {g g' : MemGraph} (h : g.indexes = g'.indexes) (index : Index) :
    g'.createIndex index =
      (g.createIndex index).map fun k => { g' with indexes := k.indexes } := by
  unfold MemGraph.createIndex
  rw [h]
  split
  · rfl
  · split
    · rfl
    · rfl

theorem eq_of_contents {g g' : MemGraph} (helements : ∀ kind, g.elements kind = g'.elements kind)
    (hindexes : g.indexes = g'.indexes) (hfault : g.fault = g'.fault)
    (hcalls : g.calls = g'.calls) : g = g' := by
  obtain ⟨vertices, edges, indexes, fault, calls⟩ := g
  obtain ⟨vertices', edges', indexes', fault', calls'⟩ := g'
  have hvertices : vertices = vertices' := helements .vertex
  have hedges : edges = edges' := helements .edge
  cases hvertices
  cases hedges
  cases hindexes
  cases hfault
  cases hcalls
  rfl

end MemGraph

namespace Session

/-! ## Ways to build -/

def Request.builds : Request → Bool
  | .insert _ | .createIndex _ => true
  | _ => false

def Request.defines : Request → Bool
  | .createIndex _ => true
  | _ => false

def insertedElements (requests : List Request) : List Element :=
  requests.filterMap fun
    | .insert e => some e
    | _ => none

/-- The element that is stored last under a kind and an identifier. -/
def lastInserted? (requests : List Request) (kind : ElementKind) (id : ElementId) :
    Option Element :=
  (insertedElements requests).reverse.find? fun e => e.kind = kind ∧ e.id = id

/-- What the definitions of indexes among some requests led to. -/
def definitionOutcomes (requests : List Request) (outcomes : List (Outcome Answer)) :
    List (Outcome Answer) :=
  ((requests.zip outcomes).filter (·.1.defines)).map (·.2)

theorem Request.exists_of_builds {r : Request} (h : r.builds = true) :
    (∃ e, r = .insert e) ∨ ∃ index, r = .createIndex index := by
  cases r with
  | insert e => exact .inl ⟨e, rfl⟩
  | createIndex index => exact .inr ⟨index, rfl⟩
  | indexedKeys | classIndexes | className | lookup | scan | probe | plan | findIndex
  | resolve | profile | calls | step | size | withIndex | fault => cases h

/-! ## One way to build -/

theorem answer_of_builds {s : State} {g : MemGraph} (hs : s.ground = .memory g)
    {r : Request} (hr : r.builds = true) :
    ∃ g', (answer s r).1 = ⟨.memory g', s.profile⟩ ∧ g'.fault = g.fault ∧
      g'.calls = g.calls := by
  obtain ⟨ground, profile⟩ := s
  cases hs
  obtain ⟨e, rfl⟩ | ⟨index, rfl⟩ := Request.exists_of_builds hr
  · exact ⟨g.insert e, rfl, g.fault_insert e, g.calls_insert e⟩
  · simp only [answer, change]
    cases hindex : g.createIndex index with
    | error f => exact ⟨g, rfl, rfl, rfl⟩
    | ok g' =>
        obtain ⟨-, -, rfl⟩ := MemGraph.createIndex_eq_ok_iff.mp hindex
        exact ⟨_, rfl, rfl, rfl⟩

theorem answerAll_of_builds {s : State} {g : MemGraph} (hs : s.ground = .memory g)
    {requests : List Request} (hr : ∀ r ∈ requests, r.builds = true) :
    ∃ g', (answerAll s requests).1 = ⟨.memory g', s.profile⟩ ∧ g'.fault = g.fault ∧
      g'.calls = g.calls := by
  induction requests generalizing s g with
  | nil =>
      obtain ⟨ground, profile⟩ := s
      cases hs
      exact ⟨g, rfl, rfl, rfl⟩
  | cons r rest ih =>
      obtain ⟨hr, hrest⟩ := List.forall_mem_cons.mp hr
      obtain ⟨g', hs', hfault, hcalls⟩ := answer_of_builds hs hr
      obtain ⟨g'', hs'', hfault', hcalls'⟩ := ih (s := (answer s r).1) (by rw [hs']) hrest
      refine ⟨g'', ?_, hfault'.trans hfault, hcalls'.trans hcalls⟩
      rw [hs'] at hs''
      show (answerAll (answer s r).1 rest).1 = _
      rw [hs', hs'']

theorem inserted_noteAll {h : History} {s : State} {requests : List Request}
    (hr : ∀ r ∈ requests, r.builds = true) :
    (h.noteAll requests (answerAll s requests).2).inserted =
      h.inserted ++ insertedElements requests := by
  induction requests generalizing h s with
  | nil => exact (List.append_nil _).symm
  | cons r rest ih =>
      obtain ⟨hr, hrest⟩ := List.forall_mem_cons.mp hr
      show ((h.note (answer s r).2.result.isOk r).noteAll rest
        (answerAll (answer s r).1 rest).2).inserted = _
      rw [ih hrest]
      obtain ⟨e, rfl⟩ | ⟨index, rfl⟩ := Request.exists_of_builds hr
      · exact List.append_assoc _ [e] _
      · simp only [History.note]
        split
        · rfl
        · rfl

/-- What is found after building is what was stored last. -/
theorem get?_of_builds {g : MemGraph} {requests : List Request}
    (hr : ∀ r ∈ requests, r.builds = true)
    (hg : (answerAll .start requests).1.ground = .memory g) (kind : ElementKind)
    (id : ElementId) : (g.elements kind).get? id = lastInserted? requests kind id := by
  obtain ⟨g', hg', hdescribes⟩ := answerAll_history_of_describes History.describes_empty
    (rfl : State.start.ground = .memory .empty) requests
  cases hg.symm.trans hg'
  have hinserted := inserted_noteAll (h := .empty) (s := .start) hr
  rw [hdescribes.elements, lastInserted?, History.last?, hinserted]
  rfl

/-! ## Definitions of indexes among other requests -/

theorem answer_createIndex_congr {s s' : State} {g g' : MemGraph}
    (hs : s.ground = .memory g) (hs' : s'.ground = .memory g') (h : g.indexes = g'.indexes)
    (index : Index) :
    (answer s (.createIndex index)).2 = (answer s' (.createIndex index)).2 ∧
      ∃ k k', (answer s (.createIndex index)).1.ground = .memory k ∧
        (answer s' (.createIndex index)).1.ground = .memory k' ∧ k.indexes = k'.indexes := by
  obtain ⟨ground, profile⟩ := s
  obtain ⟨ground', profile'⟩ := s'
  cases hs
  cases hs'
  simp only [answer, change, MemGraph.createIndex_congr h]
  cases g.createIndex index with
  | error f => exact ⟨rfl, g, g', rfl, rfl, h⟩
  | ok k => exact ⟨rfl, k, _, rfl, rfl, rfl⟩

/-- Definitions of indexes are granted and refused as if nothing stood between
them, and leave the same indexes. -/
theorem definitions_alone {s s' : State} {g g' : MemGraph} (hs : s.ground = .memory g)
    (hs' : s'.ground = .memory g') (h : g.indexes = g'.indexes) {requests : List Request}
    (hr : ∀ r ∈ requests, r.builds = true) :
    let run := answerAll s requests
    let alone := answerAll s' (requests.filter (·.defines))
    definitionOutcomes requests run.2 = alone.2 ∧
      ∃ k k', run.1.ground = .memory k ∧ alone.1.ground = .memory k' ∧
        k.indexes = k'.indexes := by
  induction requests generalizing s s' g g' with
  | nil => exact ⟨rfl, g, g', hs, hs', h⟩
  | cons r rest ih =>
      obtain ⟨hr, hrest⟩ := List.forall_mem_cons.mp hr
      obtain ⟨e, rfl⟩ | ⟨index, rfl⟩ := Request.exists_of_builds hr
      · obtain ⟨ground, profile⟩ := s
        cases hs
        have hindexes := (g.indexes_insert e).trans h
        exact ih (s := ⟨.memory (g.insert e), profile⟩) rfl hs' hindexes hrest
      · obtain ⟨houtcome, k, k', hk, hk', hindexes⟩ := answer_createIndex_congr hs hs' h index
        obtain ⟨houtcomes, hends⟩ := ih hk hk' hindexes hrest
        exact ⟨congrArg₂ List.cons houtcome houtcomes, hends⟩

/-! ## Two ways to build -/

theorem state_eq_of_builds {requests requests' : List Request}
    (hr : ∀ r ∈ requests, r.builds = true) (hr' : ∀ r ∈ requests', r.builds = true)
    (hlast : ∀ kind id, lastInserted? requests kind id = lastInserted? requests' kind id)
    (hdefined : requests.filter (·.defines) = requests'.filter (·.defines)) :
    definitionOutcomes requests (answerAll .start requests).2 =
        definitionOutcomes requests' (answerAll .start requests').2 ∧
      (answerAll .start requests).1 = (answerAll .start requests').1 := by
  have hstart : State.start.ground = .memory .empty := rfl
  obtain ⟨g, hg, hfault, hcalls⟩ := answerAll_of_builds hstart hr
  obtain ⟨g', hg', hfault', hcalls'⟩ := answerAll_of_builds hstart hr'
  obtain ⟨houtcomes, k, k', hk, halone, hindexes⟩ := definitions_alone hstart hstart rfl hr
  obtain ⟨houtcomes', l, l', hl, halone', hindexes'⟩ := definitions_alone hstart hstart rfl hr'
  rw [hg] at hk
  rw [hg'] at hl
  cases hk
  cases hl
  -- Both are compared with the session that only defines the indexes.
  rw [hdefined] at houtcomes halone
  cases halone.symm.trans halone'
  refine ⟨houtcomes.trans houtcomes'.symm, ?_⟩
  have helements : ∀ kind, g.elements kind = g'.elements kind := by
    intro kind
    refine SortedMap.ext_get? fun id => ?_
    rw [get?_of_builds hr (by rw [hg]), get?_of_builds hr' (by rw [hg']), hlast]
  rw [hg, hg', MemGraph.eq_of_contents helements (hindexes.trans hindexes'.symm)
    (hfault.trans hfault'.symm) (hcalls.trans hcalls'.symm)]

/-- Two ways to build a graph from the empty one that store the same element last
under every kind and identifier and define the same indexes in the same order: the
definitions lead to the same outcomes, the graphs are the same, and so is whatever
is answered afterwards. In particular the order of two elements of different kinds
or identifiers does not matter, elements of different kinds never replace each
other, and it does not matter whether an index is defined before or after an element
is stored. -/
theorem answerAll_build_order :
    (∀ requests requests' : List Request, (∀ r ∈ requests, r.builds = true) →
      (∀ r ∈ requests', r.builds = true) →
      (∀ kind id, lastInserted? requests kind id = lastInserted? requests' kind id) →
      requests.filter (·.defines) = requests'.filter (·.defines) →
      let run := answerAll .start requests
      let run' := answerAll .start requests'
      definitionOutcomes requests run.2 = definitionOutcomes requests' run'.2 ∧
        run.1 = run'.1 ∧
        ∀ questions, (answerAll run.1 questions).2 = (answerAll run'.1 questions).2) ∧
    (∀ (g : MemGraph) (e e' : Element), ¬ (e.kind = e'.kind ∧ e.id = e'.id) →
      (g.insert e).insert e' = (g.insert e').insert e) ∧
    (∀ (g : MemGraph) (e e' : Element), e.kind ≠ e'.kind →
      (((g.insert e).insert e').elements e.kind).get? e.id = some e ∧
        (((g.insert e).insert e').elements e'.kind).get? e'.id = some e') ∧
    ∀ (g : MemGraph) (e : Element) (index : Index),
      (g.insert e).createIndex index = (g.createIndex index).map (·.insert e) := by
  refine ⟨fun requests requests' hr hr' hlast hdefined => ?_,
    fun g e e' h => g.insert_insert_comm h, fun g e e' h => ?_,
    fun g e index => g.createIndex_insert e index⟩
  · obtain ⟨houtcomes, hstate⟩ := state_eq_of_builds hr hr' hlast hdefined
    refine ⟨houtcomes, hstate, fun questions => ?_⟩
    rw [hstate]
  · rw [MemGraph.get?_insert, MemGraph.get?_insert, MemGraph.get?_insert]
    constructor
    · rw [if_neg fun heq => h heq.1.symm, if_pos ⟨rfl, rfl⟩]
    · rw [if_pos ⟨rfl, rfl⟩]

/-- A person is renamed in one way to build and has the new name from the start in
the other, where the index is defined first and a second definition under its name
is refused just as well. -/
theorem answerAll_build_order_people :
    let index := MemGraph.labelIndex "by name" .vertex "Person" ["name"]
    let other := MemGraph.labelIndex "by name" .vertex "Person" ["town"]
    let ada : Element := .named 1 "Person" "Ada"
    let knows : Element := ⟨1, .edge, "knows", .empty, some 1, some 1⟩
    let requests : List Request :=
      [.insert (.named 1 "Person" "Eve"), .createIndex index, .insert knows,
        .createIndex other, .insert ada]
    let requests' : List Request :=
      [.createIndex index, .insert ada, .createIndex other, .insert knows]
    let run := answerAll .start requests
    let run' := answerAll .start requests'
    (∀ r ∈ requests, r.builds = true) ∧ (∀ r ∈ requests', r.builds = true) ∧
      (∀ kind id, lastInserted? requests kind id = lastInserted? requests' kind id) ∧
      requests.filter (·.defines) = requests'.filter (·.defines) ∧
      definitionOutcomes requests run.2 =
        [⟨.ok .done, [.indexCreated index]⟩, ⟨.error (.indexExists "by name"), []⟩] ∧
      run.1 = run'.1 ∧
      (MemGraph.empty.insert ada).insert knows = (MemGraph.empty.insert knows).insert ada := by
  intro index other ada knows requests requests' run run'
  have hr : ∀ r ∈ requests, r.builds = true := by simp [requests, Request.builds]
  have hr' : ∀ r ∈ requests', r.builds = true := by simp [requests', Request.builds]
  have hlast : ∀ kind id,
      lastInserted? requests kind id = lastInserted? requests' kind id := by
    intro kind id
    by_cases hid : (1 : ElementId) = id
    · cases kind <;> simp [requests, requests', lastInserted?, insertedElements, ada, knows,
        Element.named, hid]
    · simp [requests, requests', lastInserted?, insertedElements, ada, knows, Element.named, hid]
  obtain ⟨hbuild, hcomm, -, -⟩ := answerAll_build_order
  obtain ⟨houtcomes, hstate, -⟩ := hbuild requests requests' hr hr' hlast rfl
  refine ⟨hr, hr', hlast, rfl, houtcomes.trans rfl, hstate, hcomm _ ada knows ?_⟩
  rintro ⟨hkind, -⟩
  cases hkind

end Session

end StartStep
