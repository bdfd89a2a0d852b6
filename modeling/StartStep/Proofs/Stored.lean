import StartStep.Proofs.Planning
import StartStep.MemGraph

/-!
# What a graph in memory holds and answers

Every graph grows from the empty one, by elements, by indexes and by the calls
that are counted on the way; a call that is refused leaves no new graph behind.
`Reachable` is the graphs that come about like this, faults included. Of its
two invariants `Indexed` is about the indexes, which a refused definition leaves
as they were. The one needed to read a graph's answers is `Filed`: an element is
kept among those of its kind, under its own identifier. It makes the two maps
into lists that can be spoken about without maps, namely the stored elements of
a kind in increasing order of their identifiers (`stored`).

The last section says what a graph answers where no fault is in the way, in terms
of these lists. Looking up identifiers and reading everything are plain. A probe walks
the elements of both kinds and tells them apart by the name of their class
alone, so that it finds the right ones is a fact about names: the name of a
class determines the kind and the label (`className_inj`), although one label
of each kind is named specially.
-/

namespace StartStep

/-! ## Maps as lists -/

/-- Where every value knows its key, looking a key up is looking for the value
that knows it. -/
theorem SortedMap.get?_eq_find?_values {κ ν : Type} [Ord κ] [Std.LawfulEqOrd κ] [BEq κ]
    [LawfulBEq κ] {m : SortedMap κ ν} {key : ν → κ}
    (h : ∀ entry ∈ m.entries, key entry.2 = entry.1) (k : κ) :
    m.get? k = m.values.find? (fun v => key v == k) := by
  unfold get? values
  rw [List.find?_map]
  congr 1
  have hagree : ∀ entry ∈ m.entries, (compare entry.1 k == .eq) = (key entry.2 == k) := by
    intro entry hentry
    rw [h entry hentry, Bool.eq_iff_iff, beq_iff_eq, beq_iff_eq]
    exact Std.compare_eq_iff_eq
  generalize m.entries = entries at hagree
  induction entries with
  | nil => rfl
  | cons entry rest ih =>
      obtain ⟨hentry, hrest⟩ := List.forall_mem_cons.mp hagree
      rw [List.find?_cons, List.find?_cons, hentry, ih hrest]
      rfl

/-- An inserted value is found under its key, and every other key is as before. -/
theorem SortedMap.get?_insert {κ ν : Type} [Ord κ] [Std.TransOrd κ] [Std.LawfulEqOrd κ]
    [DecidableEq κ] (m : SortedMap κ ν) (k : κ) (v : ν) (k' : κ) :
    (m.insert k v).get? k' = if k = k' then some v else m.get? k' := by
  have hcompare : ∀ a : κ, (compare a k' == .eq) = decide (a = k') := by
    intro a
    rw [Bool.eq_iff_iff, beq_iff_eq, decide_eq_true_iff]
    exact Std.compare_eq_iff_eq
  unfold get? insert
  simp only [hcompare]
  generalize m.entries = entries
  induction entries with
  | nil => by_cases h : k = k' <;> simp [insertEntry, h]
  | cons entry rest ih =>
      obtain ⟨k₁, v₁⟩ := entry
      unfold insertEntry
      split
      · by_cases h : k = k' <;> simp [h]
      · next heq =>
          have hk : k = k₁ := Std.LawfulEqOrd.eq_of_compare heq
          subst hk
          by_cases h : k = k' <;> simp [h]
      · next hgt =>
          have hne : k ≠ k₁ := by
            intro hk
            rw [Std.compare_eq_iff_eq.mpr hk] at hgt
            simp at hgt
          by_cases h₁ : k₁ = k'
          · have h : k ≠ k' := h₁ ▸ hne
            simp [h₁, h]
          · simpa [h₁] using ih

theorem mem_keys_insertEntry {κ ν : Type} [Ord κ] [Std.LawfulEqOrd κ] {k k' : κ} {v : ν}
    {entries : List (κ × ν)} :
    k' ∈ (insertEntry k v entries).map (·.1) ↔ k' = k ∨ k' ∈ entries.map (·.1) := by
  induction entries with
  | nil => simp [insertEntry]
  | cons entry rest ih =>
      obtain ⟨k₁, v₁⟩ := entry
      unfold insertEntry
      split
      · simp
      · next heq =>
          rw [Std.LawfulEqOrd.eq_of_compare heq]
          simp
      · rw [List.map_cons, List.mem_cons, ih, List.map_cons, List.mem_cons]
        exact or_left_comm

theorem SortedMap.mem_keys_ofList {κ ν : Type} [Ord κ] [Std.TransOrd κ] [Std.LawfulEqOrd κ]
    {k : κ} {entries : List (κ × ν)} :
    k ∈ (ofList entries).entries.map (·.1) ↔ k ∈ entries.map (·.1) := by
  -- What is inserted joins the keys of the map that it is inserted into.
  have hfold : ∀ m : SortedMap κ ν,
      k ∈ (entries.foldl (fun m e => m.insert e.1 e.2) m).entries.map (·.1) ↔
        k ∈ entries.map (·.1) ∨ k ∈ m.entries.map (·.1) := by
    induction entries with
    | nil => simp
    | cons entry rest ih =>
        intro m
        rw [List.foldl_cons, ih, insert, mem_keys_insertEntry, List.map_cons, List.mem_cons]
        exact or_left_comm.trans or_assoc.symm
  rw [ofList, hfold]
  simp [empty]

/-- Sorting a list of texts and leaving out repetitions keeps every text. -/
theorem mem_sortedSet {items : List String} {s : String} : s ∈ sortedSet items ↔ s ∈ items := by
  rw [sortedSet, SortedMap.mem_keys_ofList, List.map_map]
  simp

namespace MemGraph

/-! ## How graphs come about -/

/-- One addition to a graph, or some calls of it, which are counted. -/
inductive Grows : MemGraph → MemGraph → Prop
  | insert (g : MemGraph) (e : Element) : Grows g (g.insert e)
  | createIndex {g g' : MemGraph} (index : Index) (h : g.createIndex index = .ok g') :
      Grows g g'
  | withIndex {g g' : MemGraph} (name : String) (kind : ElementKind) (label : String)
      (fields : List String) (h : g.withIndex name kind label fields = .ok g') : Grows g g'
  | called (g : MemGraph) (calls : List Call) :
      Grows g { g with calls := g.calls.countAll calls }

/-- The graphs that come about from the empty one. -/
inductive Reachable : MemGraph → Prop
  | empty : Reachable .empty
  | grows {g g' : MemGraph} (hg : Reachable g) (h : Grows g g') : Reachable g'
  | withFault {g : MemGraph} (hg : Reachable g) (fault : FaultPoint) :
      Reachable (g.withFault fault)

/-- Every element is kept among those of its kind under its own identifier. -/
def Filed (g : MemGraph) : Prop :=
  ∀ kind, ∀ entry ∈ (g.elements kind).entries, entry.2.kind = kind ∧ entry.2.id = entry.1

theorem Filed.insert {g : MemGraph} (h : g.Filed) (e : Element) : (g.insert e).Filed := by
  intro kind entry hentry
  have hother : entry ∈ (g.elements kind).entries →
      entry.2.kind = kind ∧ entry.2.id = entry.1 := h kind entry
  cases he : e.kind <;> cases kind <;> simp only [MemGraph.insert, he] at hentry
  case vertex.vertex | edge.edge =>
    rcases mem_insertEntry hentry with rfl | hentry
    · exact ⟨he, rfl⟩
    · exact hother hentry
  case vertex.edge | edge.vertex => exact hother hentry

/-- What it takes to define an index, and what it does. -/
theorem createIndex_eq_ok_iff {g g' : MemGraph} {index : Index} :
    g.createIndex index = .ok g' ↔
      index.fields ≠ [] ∧ index.name ∉ g.indexes.map (·.name) ∧
        g' = { g with indexes := g.indexes ++ [index] } := by
  have hname : (g.indexes.any (·.name == index.name)) = true ↔
      index.name ∈ g.indexes.map (·.name) := by
    simp [List.any_eq_true]
  unfold MemGraph.createIndex
  by_cases hfields : index.fields = []
  · simp [hfields]
  · by_cases h : (g.indexes.any (·.name == index.name)) = true
    · simp [hfields, h, hname.mp h]
    · rw [if_neg (by simpa using hfields), if_neg h, Except.ok.injEq]
      simp only [ne_eq, hfields, not_false_eq_true, mt hname.mpr h, true_and, eq_comm]

/-! Storing an element touches nothing but elements, and defining an index touches
none. -/

@[simp] theorem indexes_insert (g : MemGraph) (e : Element) :
    (g.insert e).indexes = g.indexes := by
  unfold MemGraph.insert
  cases e.kind <;> rfl

@[simp] theorem fault_insert (g : MemGraph) (e : Element) : (g.insert e).fault = g.fault := by
  unfold MemGraph.insert
  cases e.kind <;> rfl

@[simp] theorem calls_insert (g : MemGraph) (e : Element) : (g.insert e).calls = g.calls := by
  unfold MemGraph.insert
  cases e.kind <;> rfl

theorem elements_of_createIndex {g g' : MemGraph} {index : Index}
    (h : g.createIndex index = .ok g') (kind : ElementKind) :
    g'.elements kind = g.elements kind := by
  obtain ⟨-, -, rfl⟩ := createIndex_eq_ok_iff.mp h
  cases kind <;> rfl

theorem Grows.filed {g g' : MemGraph} (h : Grows g g') (hg : g.Filed) : g'.Filed := by
  cases h with
  | insert e => exact hg.insert e
  | createIndex index h =>
      intro kind
      rw [elements_of_createIndex h]
      exact hg kind
  | withIndex name kind label fields h =>
      intro kind
      rw [elements_of_createIndex h]
      exact hg kind
  | called calls =>
      intro kind
      cases kind with
      | vertex => exact hg .vertex
      | edge => exact hg .edge

theorem Reachable.filed {g : MemGraph} (hg : g.Reachable) : g.Filed := by
  induction hg with
  | empty =>
      intro kind entry hentry
      cases kind <;> exact absurd hentry List.not_mem_nil
  | grows _ h ih => exact h.filed ih
  | withFault _ fault ih =>
      intro kind
      cases kind with
      | vertex => exact ih .vertex
      | edge => exact ih .edge

/-! ## The indexes of a graph -/

/-- Indexes are told apart by their names, and every one has a field. -/
def Indexed (g : MemGraph) : Prop :=
  (g.indexes.map (·.name)).Nodup ∧ ∀ index ∈ g.indexes, index.fields ≠ []

theorem Indexed.createIndex {g g' : MemGraph} {index : Index} (hg : g.Indexed)
    (h : g.createIndex index = .ok g') : g'.Indexed := by
  obtain ⟨hfields, hname, rfl⟩ := createIndex_eq_ok_iff.mp h
  constructor
  · rw [List.map_append, List.map_singleton, List.nodup_append]
    refine ⟨hg.1, List.pairwise_singleton _ _, fun a ha b hb => ?_⟩
    rw [List.mem_singleton.mp hb]
    exact fun heq => hname (heq ▸ ha)
  · intro i hi
    rcases List.mem_append.mp hi with hi | hi
    · exact hg.2 i hi
    · rw [List.mem_singleton.mp hi]
      exact hfields

theorem Grows.indexed {g g' : MemGraph} (h : Grows g g') (hg : g.Indexed) : g'.Indexed := by
  cases h with
  | insert e => cases he : e.kind <;> simpa [Indexed, MemGraph.insert, he] using hg
  | createIndex index h => exact hg.createIndex h
  | withIndex name kind label fields h => exact hg.createIndex h
  | called calls => exact hg

theorem Reachable.indexed {g : MemGraph} (hg : g.Reachable) : g.Indexed := by
  induction hg with
  | empty => exact ⟨List.nodup_nil, fun _ h => absurd h List.not_mem_nil⟩
  | grows _ h ih => exact h.indexed ih
  | withFault _ fault ih => exact ih

/-! ## The stored elements of a kind -/

/-- The elements of a kind in the order in which they are kept. -/
def stored (g : MemGraph) (kind : ElementKind) : List Element := (g.elements kind).values

theorem Filed.kind_of_mem {g : MemGraph} (h : g.Filed) {kind : ElementKind} {e : Element}
    (he : e ∈ g.stored kind) : e.kind = kind := by
  obtain ⟨entry, hentry, rfl⟩ := List.mem_map.mp he
  exact (h kind entry hentry).1

/-- They are kept in increasing order of their identifiers. -/
theorem Filed.stored_increasing {g : MemGraph} (h : g.Filed) (kind : ElementKind) :
    (g.stored kind).Pairwise (·.id < ·.id) := by
  unfold stored SortedMap.values
  rw [List.pairwise_map]
  refine List.Pairwise.imp_of_mem ?_ (g.elements kind).increasing
  intro a b ha hb hab
  rw [(h kind a ha).2, (h kind b hb).2]
  exact Std.compare_eq_lt.mp hab

theorem Filed.get?_eq {g : MemGraph} (h : g.Filed) (kind : ElementKind) (id : ElementId) :
    (g.elements kind).get? id = (g.stored kind).find? (·.id == id) :=
  SortedMap.get?_eq_find?_values (fun entry hentry => (h kind entry hentry).2) id

/-! ## Names of classes -/

theorem toList_className (kind : ElementKind) (label : String) :
    (className kind label).toList =
      kind.baseClass.toList ++ if label = kind.baseClass then [] else '_' :: label.toList := by
  unfold className
  split
  · simp
  · rw [String.toList_append, String.toList_append, List.append_assoc]
    rfl

/-- The name of a class tells its kind and its label. -/
theorem className_inj {kind kind' : ElementKind} {label label' : String} :
    className kind label = className kind' label' ↔ kind = kind' ∧ label = label' := by
  constructor
  · intro h
    have hlist := congrArg String.toList h
    rw [toList_className, toList_className] at hlist
    have hlen : kind.baseClass.toList.length = kind'.baseClass.toList.length := by
      cases kind <;> cases kind' <;> rfl
    obtain ⟨hbase, htail⟩ := List.append_inj hlist hlen
    have hkind : kind = kind' := by
      cases kind <;> cases kind' <;> first | rfl | exact absurd hbase (by decide)
    subst hkind
    refine ⟨rfl, ?_⟩
    split at htail
    · next hl =>
        split at htail
        · next hl' => rw [hl, hl']
        · simp at htail
    · split at htail
      · simp at htail
      · exact String.toList_inj.mp (List.cons.inj htail).2
  · rintro ⟨rfl, rfl⟩
    rfl

/-! ## What a graph answers -/

section Answers

variable {g : MemGraph} {kind : ElementKind}

theorem guardFault_eq_ok {point : FaultPoint} (hf : g.fault ≠ some point) (name : String) :
    g.guardFault point name = .ok () :=
  if_neg hf

theorem fault_ne (hf : g.fault = none) (point : FaultPoint) : g.fault ≠ some point := by
  rw [hf]
  exact (Option.some_ne_none point).symm

theorem stream_eq (hf : g.fault = none) (elements : List Element) :
    g.stream elements = elements.map .ok := by
  unfold stream
  rw [hf]

theorem provider_lookup (hg : g.Filed) (hf : g.fault = none) (ids : List ElementId) :
    g.provider.lookup kind ids =
      .ok ((ids.filterMap fun id => (g.stored kind).find? (·.id == id)).map .ok) := by
  show (g.guardFault .lookup "Lookup" >>= _) = _
  rw [guardFault_eq_ok (fault_ne hf _), ok_bind, stream_eq hf]
  congr 3
  exact funext fun id => hg.get?_eq kind id

theorem provider_scan (hf : g.fault = none) :
    g.provider.scan kind = .ok ((g.stored kind).map .ok) := by
  show (g.guardFault .scan "Scan" >>= _) = _
  rw [guardFault_eq_ok (fault_ne hf _), ok_bind, stream_eq hf]
  rfl

theorem provider_indexedKeys (hf : g.fault ≠ some .metadata) (label : String) :
    g.provider.indexedKeys kind label =
      .ok (sortedSet ((g.indexesOf (className kind label)).flatMap (·.fields))) := by
  show (g.guardFault .metadata "Metadata" >>= _) = _
  rw [guardFault_eq_ok hf, ok_bind]

theorem provider_classIndexes (hf : g.fault ≠ some .metadata) (name : String) :
    g.provider.classIndexes name = .ok (g.indexesOf name) := by
  show (g.guardFault .metadata "Metadata" >>= _) = _
  rw [guardFault_eq_ok hf, ok_bind]

theorem mem_of_provider_classIndexes {name : String} {indexes : List Index} {index : Index}
    (h : g.provider.classIndexes name = .ok indexes) (hindex : index ∈ indexes) :
    index ∈ g.indexes ∧ index.className = name := by
  obtain ⟨-, -, h⟩ := bind_eq_ok.mp h
  cases h
  obtain ⟨hmem, hname⟩ := List.mem_filter.mp hindex
  exact ⟨hmem, beq_iff_eq.mp hname⟩

/-- A probe of one of the graph's own indexes is refused for no reason but a
fault. -/
theorem provider_probe {index : Index} {key : String} (hindex : index ∈ g.indexes)
    (hcovers : index.covers key = true) (values : List Value) :
    g.provider.probe index key values =
      (g.guardFault .probe "Probe").map fun _ => g.stream (g.hits index key values) := by
  have hname : (g.indexes.any (·.name == index.name)) = true :=
    List.any_eq_true.mpr ⟨index, hindex, beq_self_eq_true _⟩
  show (g.guardFault .probe "Probe" >>= _) = _
  rw [hname, hcovers]
  cases g.guardFault .probe "Probe" <;> rfl

/-- What a hit of an index on a label is, with the class taken apart. -/
theorem isHit_eq {index : Index} {label : String}
    (hclass : index.className = className kind label) (key : String) (value : Value)
    (e : Element) :
    isHit index key value e =
      (decide (e.kind = kind) && (e.label == label && e.carries key value)) := by
  unfold isHit
  rw [hclass, ← Bool.and_assoc]
  congr 1
  · rw [Bool.eq_iff_iff, beq_iff_eq, className_inj]
    simp
  · unfold Element.carries
    cases e.property? key <;> rfl

/-- A probe of an index on a label finds, for every value in turn, the stored
elements of the kind with that label that have the value. -/
theorem hits_eq (hg : g.Filed) {index : Index} {label : String}
    (hclass : index.className = className kind label) (key : String)
    (values : List Value) :
    g.hits index key values = values.flatMap fun value =>
      (g.stored kind).filter fun e => e.label == label && e.carries key value := by
  unfold hits
  congr 1
  funext value
  have hfilter : ∀ other, (g.stored other).filter (isHit index key value) =
      if other = kind then
        (g.stored kind).filter fun e => e.label == label && e.carries key value
      else [] := by
    intro other
    have hhit : ∀ e ∈ g.stored other, isHit index key value e =
        (decide (other = kind) && (e.label == label && e.carries key value)) := by
      intro e he
      rw [isHit_eq hclass, hg.kind_of_mem he]
    rw [List.filter_congr hhit]
    split
    · next h => subst h; simp
    · next h => simp [h]
  -- The walk goes through both kinds, and one of them has no hits.
  have hboth : g.vertices.values ++ g.edges.values = g.stored .vertex ++ g.stored .edge := rfl
  rw [hboth, List.filter_append, hfilter, hfilter]
  cases kind <;> simp

end Answers

end MemGraph

end StartStep
