import Mathlib.Data.List.Forall2
import StartStep.Proofs.RoundTrip
import StartStep.Proofs.History

/-!
# What a fixture becomes

Loading is three loops in a row, and each of their steps can fail: storing an element
because a property holds an object, defining an index because it has no field or
because its name is taken. Which of several faults is reported is said by a
list, the faults of a fixture in the order in which they are met
(`Fixture.faults`). A computation that fails with the first of some faults, or not at all
if there are none, followed by another one of this kind, is again of this kind, and the
two lists stand behind each other (`FailsFirst.bind`). So the list is put together in
the way in which the program is, and nothing that is done later takes a fault out of
it: a record that is replaced has to be in order as well.

If there is no fault, every record has become an element that is described by it
(`VertexRecord.Describes`, `EdgeRecord.Describes`). An element takes the place of the
one with its kind and identifier, so that the last record counts, and the two loops of
elements do not meet, because their kinds differ.
-/

namespace StartStep

/-! ## The first of several faults -/

/-- A computation fails with the first of some faults, and succeeds if there are none. -/
def FailsFirst {ε α : Type} (x : Except ε α) (faults : List ε) : Prop :=
  ∀ e, x = .error e ↔ faults.head? = some e

namespace FailsFirst

variable {ε α β : Type} {x : Except ε α} {faults more : List ε}

theorem ok (a : α) : FailsFirst (.ok a : Except ε α) [] := by
  intro e
  simp

theorem error (e : ε) : FailsFirst (.error e : Except ε α) (e :: more) := by
  intro e'
  simp

theorem exists_ok_iff (h : FailsFirst x faults) : (∃ a, x = .ok a) ↔ faults = [] := by
  cases x with
  | ok a =>
      cases faults with
      | nil => simp
      | cons e rest => cases (h e).mpr rfl
  | error e =>
      obtain ⟨rest, rfl⟩ := List.head?_eq_some_iff.mp ((h e).mp rfl)
      simp

theorem bind (h : FailsFirst x faults) {f : α → Except ε β}
    (hf : ∀ a, x = .ok a → FailsFirst (f a) more) : FailsFirst (x >>= f) (faults ++ more) := by
  cases x with
  | ok a =>
      rw [h.exists_ok_iff.mp ⟨a, rfl⟩]
      exact hf a rfl
  | error e =>
      obtain ⟨rest, rfl⟩ := List.head?_eq_some_iff.mp ((h e).mp rfl)
      exact .error e

/-- What is done with the result at the end does not fail. -/
theorem bind_ok (h : FailsFirst x faults) (f : α → β) :
    FailsFirst (x >>= fun a => .ok (f a)) faults := by
  have hbind := h.bind (f := fun a => .ok (f a)) fun a _ => .ok (f a)
  rwa [List.append_nil] at hbind

theorem mapM {f : α → Except ε β} {faults : α → List ε} {items : List α}
    (h : ∀ a ∈ items, FailsFirst (f a) (faults a)) :
    FailsFirst (items.mapM f) (items.flatMap faults) := by
  induction items with
  | nil => exact .ok []
  | cons a rest ih =>
      obtain ⟨ha, hrest⟩ := List.forall_mem_cons.mp h
      rw [List.mapM_cons, List.flatMap_cons]
      exact ha.bind fun b _ => (ih hrest).bind_ok (b :: ·)

end FailsFirst

theorem mapM_eq_ok_iff {ε α β : Type} {f : α → Except ε β} {as : List α} {bs : List β} :
    as.mapM f = .ok bs ↔ List.Forall₂ (fun a b => f a = .ok b) as bs := by
  induction as generalizing bs with
  | nil =>
      rw [List.forall₂_nil_left_iff, List.mapM_nil]
      show Except.ok [] = Except.ok bs ↔ _
      rw [Except.ok.injEq, eq_comm]
  | cons a as ih =>
      rw [List.mapM_cons, List.forall₂_cons_left_iff, bind_eq_ok]
      constructor
      · rintro ⟨b, hb, h⟩
        obtain ⟨bs', hbs, h⟩ := bind_eq_ok.mp h
        cases h
        exact ⟨b, bs', hb, ih.mp hbs, rfl⟩
      · rintro ⟨b, bs', hb, hbs, rfl⟩
        exact ⟨b, hb, bind_eq_ok.mpr ⟨bs', ih.mpr hbs, rfl⟩⟩

/-! ## Lists related item by item -/

/-- What is found first in two lists that are related item by item is related. -/
theorem rel_find? {α β : Type} {R : α → β → Prop} {p : α → Bool} {q : β → Bool} {as : List α}
    {bs : List β} (h : List.Forall₂ R as bs) (hpq : ∀ a b, R a b → p a = q b) :
    Option.Rel R (as.find? p) (bs.find? q) := by
  induction h with
  | nil => exact .none
  | @cons a b as bs hab _ ih =>
      rw [List.find?_cons, List.find?_cons, hpq a b hab]
      cases q b with
      | true => exact .some hab
      | false => exact ih

theorem exists_of_rel_some {α β : Type} {R : α → β → Prop} {a : α} {found : Option β}
    (h : Option.Rel R (some a) found) : ∃ b, found = some b ∧ R a b := by
  cases h with
  | some h => exact ⟨_, rfl, h⟩

/-! ## Documents and values -/

namespace Json

mutual

/-- The objects in a document in the order of their beginnings, those inside one another
included. -/
def objects : Json → List Json
  | .array items => itemObjects items
  | .object fields => .object fields :: fieldObjects fields
  | _ => []

def itemObjects : List Json → List Json
  | [] => []
  | j :: rest => objects j ++ itemObjects rest

def fieldObjects : List (String × Json) → List Json
  | [] => []
  | (_, j) :: rest => objects j ++ fieldObjects rest

end

/-- What an object is refused with. -/
def objectFault (j : Json) : Failure := .objectValue (compact j)

/-- A document and the value that it is written for: arrays are lists of as many items in the
same order, integers stay integers if they are signed 64-bit ones and are
rounded to a double if they are not. -/
inductive Denotes : Json → Value → Prop
  | null : Denotes .null .null
  | bool (b : Bool) : Denotes (.bool b) (.bool b)
  | string (s : String) : Denotes (.string s) (.string s)
  | int (i : Int64) : Denotes (.integer i.toInt) (.int i)
  | rounded {i : Int} (h : ∀ k : Int64, k.toInt ≠ i) : Denotes (.integer i) (.float (.ofInt i))
  | float (x : Double) : Denotes (.number (.float x)) (.float x)
  | array {items : List Json} {values : List Value} (h : List.Forall₂ Denotes items values) :
      Denotes (.array items) (.list values)

theorem denotes_number_iff {n : Number} {v : Value} :
    Denotes (.number n) v ↔ v = .ofNumber n := by
  have hfits : ∀ i : Int, fitsInt64 i = true ↔ ∃ k : Int64, k.toInt = i := by
    intro i
    unfold fitsInt64
    constructor
    · intro h
      exact ⟨.ofInt i, Int64.toInt_ofInt_of_le (by simp at h; omega) (by simp at h; omega)⟩
    · rintro ⟨k, rfl⟩
      have := k.le_toInt
      have := k.toInt_lt
      simp
      omega
  cases n with
  | float x =>
      constructor
      · rintro (_ | _ | _ | _ | _ | _ | _)
        rfl
      · rintro rfl
        exact .float x
  | integer i =>
      have hvalue : Value.ofNumber (.integer i) =
          if fitsInt64 i then .int (Int64.ofInt i) else .float (Double.ofInt i) := rfl
      rw [hvalue]
      constructor
      · intro h
        cases h with
        | int k => rw [if_pos ((hfits _).mpr ⟨k, rfl⟩), Int64.ofInt_toInt]
        | rounded h => rw [if_neg (mt (hfits i).mp (not_exists.mpr h))]
      · rintro rfl
        split
        · next h =>
            obtain ⟨k, rfl⟩ := (hfits i).mp h
            rw [Int64.ofInt_toInt]
            exact .int k
        · next h => exact .rounded (not_exists.mp (mt (hfits i).mpr h))

mutual

theorem denotes_iff {j : Json} {v : Value} : Denotes j v ↔ Value.ofJson j = .ok v := by
  match j with
  | .null =>
      exact ⟨fun | .null => rfl, fun h => Except.ok.inj h ▸ .null⟩
  | .bool b =>
      exact ⟨fun | .bool _ => rfl, fun h => Except.ok.inj h ▸ .bool b⟩
  | .string s =>
      exact ⟨fun | .string _ => rfl, fun h => Except.ok.inj h ▸ .string s⟩
  | .number n =>
      rw [denotes_number_iff, Value.ofJson, Except.ok.injEq, eq_comm]
  | .array items =>
      rw [Value.ofJson, bind_eq_ok]
      constructor
      · rintro (_ | _ | _ | _ | _ | _ | h)
        exact ⟨_, denotes_items_iff.mp h, rfl⟩
      · rintro ⟨values, h, hv⟩
        cases hv
        exact .array (denotes_items_iff.mpr h)
  | .object fields =>
      rw [Value.ofJson]
      exact iff_of_false (fun h => nomatch h) (fun h => nomatch h)

theorem denotes_items_iff {items : List Json} {values : List Value} :
    List.Forall₂ Denotes items values ↔ Value.ofJsonItems items = .ok values := by
  match items with
  | [] =>
      rw [List.forall₂_nil_left_iff, Value.ofJsonItems, Except.ok.injEq, eq_comm]
  | j :: rest =>
      rw [List.forall₂_cons_left_iff, Value.ofJsonItems, bind_eq_ok]
      simp only [bind_eq_ok, ← denotes_iff, ← denotes_items_iff, Except.ok.injEq]
      constructor
      · rintro ⟨v, values, hv, hvalues, rfl⟩
        exact ⟨v, hv, values, hvalues, rfl⟩
      · rintro ⟨v, hv, values, hvalues, rfl⟩
        exact ⟨v, values, hv, hvalues, rfl⟩

end

mutual

theorem ofJson_failsFirst (j : Json) :
    FailsFirst (Value.ofJson j) (j.objects.map objectFault) := by
  match j with
  | .null => exact .ok _
  | .bool _ => exact .ok _
  | .number _ => exact .ok _
  | .string _ => exact .ok _
  | .array items => exact (ofJsonItems_failsFirst items).bind_ok Value.list
  | .object fields => exact .error _

theorem ofJsonItems_failsFirst (items : List Json) :
    FailsFirst (Value.ofJsonItems items) ((itemObjects items).map objectFault) := by
  match items with
  | [] => exact .ok _
  | j :: rest =>
      rw [itemObjects, List.map_append]
      exact (ofJson_failsFirst j).bind fun v _ => (ofJsonItems_failsFirst rest).bind_ok (v :: ·)

end

end Json

open Json

/-! ## Properties and records -/

/-- Properties are those written, with the same keys. -/
def PropertiesOf (written : SortedMap String Json) (properties : SortedMap String Value) : Prop :=
  List.Forall₂ (fun w p => w.1 = p.1 ∧ Denotes w.2 p.2) written.entries properties.entries

theorem convertProperties_eq_ok_iff {written : SortedMap String Json}
    {properties : SortedMap String Value} :
    convertProperties written = .ok properties ↔ PropertiesOf written properties := by
  have hentry : ∀ (w : String × Json) (p : String × Value),
      (do .ok (w.1, ← Value.ofJson w.2) : Except Failure _) = .ok p ↔
        w.1 = p.1 ∧ Denotes w.2 p.2 := by
    rintro ⟨key, j⟩ ⟨key', v⟩
    simp only [bind_eq_ok, denotes_iff, Except.ok.injEq, Prod.mk.injEq]
    constructor
    · rintro ⟨v, hv, rfl, rfl⟩
      exact ⟨rfl, hv⟩
    · rintro ⟨rfl, hv⟩
      exact ⟨v, hv, rfl, rfl⟩
  have hmapM : ∀ entries, written.entries.mapM
      (fun w => (do .ok (w.1, ← Value.ofJson w.2) : Except Failure _)) = .ok entries ↔
        List.Forall₂ (fun w p => w.1 = p.1 ∧ Denotes w.2 p.2) written.entries entries := by
    intro entries
    simp only [mapM_eq_ok_iff, hentry]
  unfold convertProperties PropertiesOf
  simp only [bind_eq_ok, hmapM, Except.ok.injEq]
  constructor
  · rintro ⟨entries, h, rfl⟩
    -- The entries have the keys of a map in their order, so they are those of one as they are.
    have hkeys : written.entries.map (·.1) = entries.map (·.1) := by
      rw [← List.forall₂_eq_eq_eq, List.forall₂_map_left_iff, List.forall₂_map_right_iff]
      exact h.imp fun _ _ h => h.1
    have hincreasing : KeysIncrease entries := by
      have hpairwise : (written.entries.map (·.1)).Pairwise fun k k' => compare k k' = .lt :=
        List.pairwise_map.mpr written.increasing
      rw [hkeys] at hpairwise
      exact List.pairwise_map.mp hpairwise
    have hofList := (⟨entries, hincreasing⟩ : SortedMap String Value).ofList_entries
    rw [show SortedMap.ofList entries = _ from hofList]
    exact h
  · intro h
    exact ⟨_, h, properties.ofList_entries⟩

theorem PropertiesOf.get? {written : SortedMap String Json} {properties : SortedMap String Value}
    (h : PropertiesOf written properties) (key : String) :
    Option.Rel Denotes (written.get? key) (properties.get? key) := by
  have hfound := rel_find? (p := fun e => compare e.1 key == .eq)
    (q := fun e => compare e.1 key == .eq) h fun w p hwp => by rw [hwp.1]
  unfold SortedMap.get?
  generalize written.entries.find? _ = w at hfound
  generalize properties.entries.find? _ = p at hfound
  cases hfound with
  | none => exact .none
  | some h => exact .some h.2

/-- The objects in properties, in the order of their keys. -/
def propertyFaults (written : SortedMap String Json) : List Failure :=
  written.values.flatMap fun j => j.objects.map objectFault

theorem convertProperties_failsFirst (written : SortedMap String Json) :
    FailsFirst (convertProperties written) (propertyFaults written) := by
  unfold convertProperties propertyFaults SortedMap.values
  rw [List.flatMap_map]
  exact (FailsFirst.mapM fun w _ => (ofJson_failsFirst w.2).bind_ok (w.1, ·)).bind_ok _

/-- An element is what a record says that has these parts. -/
structure Element.Made (e : Element) (id : ElementId) (kind : ElementKind) (label : String)
    (written : SortedMap String Json) (outVertex inVertex : Option ElementId) : Prop where
  id : e.id = id
  kind : e.kind = kind
  label : e.label = label
  properties : PropertiesOf written e.properties
  outVertex : e.outVertex = outVertex
  inVertex : e.inVertex = inVertex

theorem Element.made_iff {e : Element} {id : ElementId} {kind : ElementKind} {label : String}
    {written : SortedMap String Json} {outVertex inVertex : Option ElementId} :
    (do .ok ⟨id, kind, label, ← convertProperties written, outVertex, inVertex⟩ :
      Except Failure Element) = .ok e ↔ e.Made id kind label written outVertex inVertex := by
  simp only [bind_eq_ok, convertProperties_eq_ok_iff, Except.ok.injEq]
  constructor
  · rintro ⟨properties, h, rfl⟩
    exact ⟨rfl, rfl, rfl, h, rfl, rfl⟩
  · obtain ⟨id', kind', label', properties, outVertex', inVertex'⟩ := e
    rintro ⟨rfl, rfl, rfl, h, rfl, rfl⟩
    exact ⟨_, h, rfl⟩

def VertexRecord.Describes (r : VertexRecord) (e : Element) : Prop :=
  e.Made r.id .vertex r.label r.properties none none

def EdgeRecord.Describes (r : EdgeRecord) (e : Element) : Prop :=
  e.Made r.id .edge r.label r.properties (some r.out) (some r.into)

/-! ## The loops -/

namespace Fixture

section Insertion

variable {ρ : Type} {records : List ρ} {element : ρ → Except Failure Element} {g g' : MemGraph}

theorem insertAll_failsFirst {faults : ρ → List Failure}
    (h : ∀ r, FailsFirst (element r) (faults r)) (g : MemGraph) :
    FailsFirst (insertAll g (records.map element)) (records.flatMap faults) := by
  induction records generalizing g with
  | nil => exact .ok g
  | cons r rest ih => exact (h r).bind fun e _ => ih (g.insert e)

theorem insertAll_eq_ok_iff : insertAll g (records.map element) = .ok g' ↔
    ∃ es, List.Forall₂ (fun r e => element r = .ok e) records es ∧
      g' = es.foldl MemGraph.insert g := by
  induction records generalizing g with
  | nil =>
      simp only [List.forall₂_nil_left_iff, exists_eq_left, List.foldl_nil, List.map_nil,
        insertAll, Except.ok.injEq]
      exact eq_comm
  | cons r rest ih =>
      simp only [List.map_cons, insertAll, bind_eq_ok, ih, List.forall₂_cons_left_iff]
      constructor
      · rintro ⟨e, he, es, hes, rfl⟩
        exact ⟨e :: es, ⟨e, es, he, hes, rfl⟩, rfl⟩
      · rintro ⟨_, ⟨e, es, he, hes, rfl⟩, rfl⟩
        exact ⟨e, he, es, hes, rfl⟩

end Insertion

/-- After elements of one kind have been stored, the last of them is found under its
identifier, and elsewhere nothing has changed. -/
theorem get?_foldl_insert {kind : ElementKind} {es : List Element} (h : ∀ e ∈ es, e.kind = kind)
    (g : MemGraph) (kind' : ElementKind) (id : ElementId) :
    ((es.foldl MemGraph.insert g).elements kind').get? id =
      if kind = kind' then (es.reverse.find? (·.id == id)).or ((g.elements kind').get? id)
      else (g.elements kind').get? id := by
  induction es generalizing g with
  | nil => simp
  | cons e es ih =>
      obtain ⟨hkind, hes⟩ := List.forall_mem_cons.mp h
      rw [List.foldl_cons, ih hes, MemGraph.get?_insert, hkind, List.reverse_cons,
        List.find?_append]
      by_cases hk : kind = kind'
      · by_cases hid : e.id = id <;> simp [hk, hid]
      · simp [hk]

theorem indexes_foldl_insert (es : List Element) (g : MemGraph) :
    (es.foldl MemGraph.insert g).indexes = g.indexes ∧
      (es.foldl MemGraph.insert g).fault = g.fault := by
  induction es generalizing g with
  | nil => exact ⟨rfl, rfl⟩
  | cons e es ih =>
      obtain ⟨hindexes, hfault⟩ := ih (g.insert e)
      exact ⟨hindexes.trans (g.indexes_insert e), hfault.trans (g.fault_insert e)⟩

/-- The faults of index records, the names in front of them being taken. -/
def indexFaults : List String → List IndexRecord → List Failure
  | _, [] => []
  | taken, r :: rest =>
      (if r.fields = [] then [.fieldlessIndex] else []) ++
        (if r.name ∈ taken then [.indexExists r.name] else []) ++
        indexFaults (taken ++ [r.name]) rest

theorem indexFaults_eq_nil_iff {taken : List String} {records : List IndexRecord} :
    indexFaults taken records = [] ↔ (∀ r ∈ records, r.fields ≠ []) ∧
      (records.map (·.name)).Nodup ∧ ∀ r ∈ records, r.name ∉ taken := by
  induction records generalizing taken with
  | nil => simp [indexFaults]
  | cons r rest ih =>
      have hif : ∀ (p : Prop) [Decidable p] (e : Failure),
          (if p then [e] else []) = [] ↔ ¬ p := by
        intro p _ e
        split <;> simp_all
      simp only [indexFaults, List.append_eq_nil_iff, hif, ih, List.mem_append, List.mem_singleton,
        not_or, List.forall_mem_cons, List.map_cons, List.nodup_cons, List.mem_map, not_exists,
        not_and, forall_and]
      tauto

theorem createIndex_failsFirst (g : MemGraph) (r : IndexRecord) :
    FailsFirst (g.createIndex r.index)
      ((if r.fields = [] then [.fieldlessIndex] else []) ++
        if r.name ∈ g.indexes.map (·.name) then [.indexExists r.name] else []) := by
  have hname : (g.indexes.any (·.name == r.index.name)) = true ↔
      r.name ∈ g.indexes.map (·.name) := by
    simp [List.any_eq_true, IndexRecord.index, MemGraph.labelIndex]
  have hfields : r.index.fields.isEmpty = true ↔ r.fields = [] := List.isEmpty_iff
  unfold MemGraph.createIndex
  by_cases hempty : r.fields = []
  · rw [if_pos (hfields.mpr hempty), if_pos hempty]
    exact .error _
  · rw [if_neg (mt hfields.mp hempty), if_neg hempty]
    by_cases htaken : r.name ∈ g.indexes.map (·.name)
    · rw [if_pos (hname.mpr htaken), if_pos htaken]
      exact .error _
    · rw [if_neg (mt hname.mp htaken), if_neg htaken]
      exact .ok _

theorem createAll_failsFirst (records : List IndexRecord) (g : MemGraph) :
    FailsFirst (createAll g (records.map IndexRecord.index)).result
      (indexFaults (g.indexes.map (·.name)) records) := by
  induction records generalizing g with
  | nil => exact .ok g
  | cons r rest ih =>
      simp only [List.map_cons, createAll, Run.result_bind, Run.result_ofExcept, Run.result_log,
        ok_bind]
      refine (createIndex_failsFirst g r).bind fun g' hg' => ?_
      obtain ⟨-, -, rfl⟩ := MemGraph.createIndex_eq_ok_iff.mp hg'
      have hrest := ih { g with indexes := g.indexes ++ [r.index] }
      rw [List.map_append, List.map_singleton] at hrest
      exact hrest

theorem eq_of_createAll {indexes : List Index} {g g' : MemGraph}
    (h : (createAll g indexes).result = .ok g') :
    g' = { g with indexes := g.indexes ++ indexes } := by
  induction indexes generalizing g with
  | nil =>
      rw [List.append_nil]
      exact (Except.ok.inj h).symm
  | cons index rest ih =>
      simp only [createAll, Run.result_bind, Run.result_ofExcept, Run.result_log, ok_bind,
        bind_eq_ok] at h
      obtain ⟨g₁, hg₁, h⟩ := h
      obtain ⟨-, -, rfl⟩ := MemGraph.createIndex_eq_ok_iff.mp hg₁
      rw [ih h, List.append_assoc]
      rfl

/-! ## Loading -/

/-- What is wrong with a fixture, in the order in which it is met: the objects in
properties, records in file order and properties in key order, then the indexes. -/
def faults (f : Fixture) : List Failure :=
  (f.documents.flatMap Json.objects).map objectFault ++ indexFaults [] f.indexes

theorem build_result (f : Fixture) : f.build.result =
    (insertAll .empty (f.vertices.map VertexRecord.element) >>= fun g =>
      insertAll g (f.edges.map EdgeRecord.element) >>= fun g =>
        (createAll g (f.indexes.map IndexRecord.index)).result) := by
  simp only [build, Run.result_bind, Run.result_ofExcept]

theorem build_failsFirst (f : Fixture) : FailsFirst f.build.result f.faults := by
  have hfaults : f.faults =
      f.vertices.flatMap (fun r => propertyFaults r.properties) ++
        (f.edges.flatMap (fun r => propertyFaults r.properties) ++ indexFaults [] f.indexes) := by
    simp only [faults, documents, propertyFaults, List.flatMap_append, List.flatMap_assoc,
      List.map_append, List.map_flatMap, List.append_assoc]
  rw [build_result, hfaults]
  have hvertex : ∀ r : VertexRecord, FailsFirst r.element _ :=
    fun r => (convertProperties_failsFirst r.properties).bind_ok _
  have hedge : ∀ r : EdgeRecord, FailsFirst r.element _ :=
    fun r => (convertProperties_failsFirst r.properties).bind_ok _
  refine (insertAll_failsFirst hvertex _).bind fun g hg => ?_
  refine (insertAll_failsFirst hedge _).bind fun g' hg' => ?_
  obtain ⟨vs, -, rfl⟩ := insertAll_eq_ok_iff.mp hg
  obtain ⟨es, -, rfl⟩ := insertAll_eq_ok_iff.mp hg'
  have hcreate := createAll_failsFirst f.indexes
    (es.foldl MemGraph.insert (vs.foldl MemGraph.insert .empty))
  rw [(indexes_foldl_insert _ _).1, (indexes_foldl_insert _ _).1] at hcreate
  exact hcreate

theorem exists_build_iff (f : Fixture) : (∃ g, f.build.result = .ok g) ↔
    (∀ j ∈ f.documents, j.objects = []) ∧ (∀ r ∈ f.indexes, r.fields ≠ []) ∧
      (f.indexes.map (·.name)).Nodup := by
  rw [f.build_failsFirst.exists_ok_iff, faults, List.append_eq_nil_iff, List.map_eq_nil_iff,
    List.flatMap_eq_nil_iff, indexFaults_eq_nil_iff]
  simp

/-- A graph that is loaded, from the elements of the two loops. -/
theorem build_eq_ok {f : Fixture} {g : MemGraph} (h : f.build.result = .ok g) :
    ∃ vs es, List.Forall₂ VertexRecord.Describes f.vertices vs ∧
      List.Forall₂ EdgeRecord.Describes f.edges es ∧
      g = { es.foldl MemGraph.insert (vs.foldl MemGraph.insert .empty) with
        indexes := f.indexes.map IndexRecord.index } := by
  rw [build_result] at h
  obtain ⟨g₁, hg₁, h⟩ := bind_eq_ok.mp h
  obtain ⟨g₂, hg₂, h⟩ := bind_eq_ok.mp h
  obtain ⟨vs, hvs, rfl⟩ := insertAll_eq_ok_iff.mp hg₁
  obtain ⟨es, hes, rfl⟩ := insertAll_eq_ok_iff.mp hg₂
  refine ⟨vs, es, hvs.imp fun _ _ => Element.made_iff.mp,
    hes.imp fun _ _ => Element.made_iff.mp, ?_⟩
  rw [eq_of_createAll h, (indexes_foldl_insert _ _).1, (indexes_foldl_insert _ _).1]
  rfl

theorem kind_of_forall₂ {ρ : Type} {R : ρ → Element → Prop} {kind : ElementKind}
    {records : List ρ} {es : List Element} (h : List.Forall₂ R records es)
    (hR : ∀ r e, R r e → e.kind = kind) : ∀ e ∈ es, e.kind = kind := by
  induction h with
  | nil => exact fun e he => absurd he List.not_mem_nil
  | cons hr _ ih => exact List.forall_mem_cons.mpr ⟨hR _ _ hr, ih⟩

theorem get?_build {f : Fixture} {g : MemGraph} (h : f.build.result = .ok g) (id : ElementId) :
    Option.Rel VertexRecord.Describes (f.vertices.reverse.find? (·.id == id))
        ((g.elements .vertex).get? id) ∧
      Option.Rel EdgeRecord.Describes (f.edges.reverse.find? (·.id == id))
        ((g.elements .edge).get? id) := by
  obtain ⟨vs, es, hvs, hes, hg⟩ := build_eq_ok h
  have hvertices := get?_foldl_insert (kind_of_forall₂ hvs fun _ _ h => h.kind) .empty
  have hedges := get?_foldl_insert (kind_of_forall₂ hes fun _ _ h => h.kind)
    (vs.foldl MemGraph.insert .empty)
  have hvertex : (g.elements .vertex).get? id = vs.reverse.find? (·.id == id) := by
    rw [hg]
    refine (hedges .vertex id).trans ((hvertices .vertex id).trans ?_)
    exact Option.or_none
  have hedge : (g.elements .edge).get? id = es.reverse.find? (·.id == id) := by
    rw [hg]
    refine (hedges .edge id).trans ?_
    rw [hvertices .edge id]
    exact Option.or_none
  rw [hvertex, hedge]
  refine ⟨rel_find? (List.forall₂_reverse_iff.mpr hvs) fun r e h => ?_,
    rel_find? (List.forall₂_reverse_iff.mpr hes) fun r e h => ?_⟩
  · rw [h.id]
  · rw [h.id]

theorem classIndexes_build {f : Fixture} {g : MemGraph} (h : f.build.result = .ok g)
    (kind : ElementKind) (label : String) :
    g.provider.classIndexes (g.provider.className kind label) =
      .ok ((f.indexes.filter fun r => r.kind = kind ∧ r.label = label).map IndexRecord.index) := by
  obtain ⟨vs, es, -, -, hg⟩ := build_eq_ok h
  have hfault : g.fault = none := by
    rw [hg]
    exact ((indexes_foldl_insert _ _).2.trans (indexes_foldl_insert _ _).2)
  have hindexes : g.indexes = f.indexes.map IndexRecord.index := by rw [hg]
  rw [MemGraph.provider_classIndexes (MemGraph.fault_ne hfault _), MemGraph.indexesOf, hindexes,
    List.filter_map]
  congr 2
  refine List.filter_congr fun r _ => ?_
  rw [Function.comp_apply, Bool.eq_iff_iff, beq_iff_eq, decide_eq_true_iff]
  exact MemGraph.className_inj

/-- Loading fails with the first fault of the fixture, and succeeds if no property holds an
object, every index has a field and no two have one name. The graph then has
under every kind and identifier what the last record with it says, and nothing where there is
no record, and its indexes are those of the records in file order. -/
theorem build_outcome (f : Fixture) :
    (∀ e, f.build.result = .error e ↔ f.faults.head? = some e) ∧
    ((∃ g, f.build.result = .ok g) ↔
      (∀ j ∈ f.documents, j.objects = []) ∧ (∀ r ∈ f.indexes, r.fields ≠ []) ∧
        (f.indexes.map (·.name)).Nodup) ∧
    ∀ g, f.build.result = .ok g →
      (∀ id, Option.Rel VertexRecord.Describes (f.vertices.reverse.find? (·.id == id))
        ((g.elements .vertex).get? id)) ∧
      (∀ id, Option.Rel EdgeRecord.Describes (f.edges.reverse.find? (·.id == id))
        ((g.elements .edge).get? id)) ∧
      ∀ kind label, g.provider.classIndexes (g.provider.className kind label) =
        .ok ((f.indexes.filter fun r => r.kind = kind ∧ r.label = label).map
          IndexRecord.index) := by
  refine ⟨f.build_failsFirst, f.exists_build_iff, fun g h => ⟨?_, ?_, ?_⟩⟩
  · exact fun id => (get?_build h id).1
  · exact fun id => (get?_build h id).2
  · exact classIndexes_build h

/-- A vertex written twice, an edge with its identifier, and an index. -/
def twiceWritten : Fixture where
  vertices :=
    [⟨1, "Person", ⟨[("age", .integer 40)], List.pairwise_singleton ..⟩⟩,
      ⟨1, "Author", ⟨[("ages", .array [.integer 41, .null])], List.pairwise_singleton ..⟩⟩]
  edges := [⟨1, "knows", 1, 1, .empty⟩]
  indexes := [⟨"by age", .vertex, "Person", ["age"]⟩]

/-- Of the vertex the second record is left, and the index is reported. Were it defined once
more without fields, then that would be the fault, and not the name. -/
theorem build_outcome_twiceWritten :
    (∃ g, twiceWritten.build.result = .ok g ∧
      (∃ e, (g.elements .vertex).get? 1 = some e ∧ e.label = "Author" ∧
        e.property? "ages" = some (.list [.int 41, .null])) ∧
      (∃ e, (g.elements .edge).get? 1 = some e ∧ e.outVertex = some 1) ∧
      g.provider.classIndexes (g.provider.className .vertex "Person") =
        .ok [⟨"by age", "V_Person", ["age"]⟩]) ∧
    (Fixture.mk twiceWritten.vertices twiceWritten.edges
      (twiceWritten.indexes ++ [⟨"by age", .edge, "knows", []⟩])).build.result =
        .error .fieldlessIndex := by
  have hobjects : ∀ j ∈ twiceWritten.documents, j.objects = [] := by
    simp [twiceWritten, documents, SortedMap.values, SortedMap.empty, objects, itemObjects, integer]
  refine ⟨?_, ((build_outcome _).1 _).mpr ?_⟩
  · obtain ⟨-, hexists, hloaded⟩ := build_outcome twiceWritten
    obtain ⟨g, hg⟩ := hexists.mpr ⟨hobjects, by decide, by decide⟩
    obtain ⟨hvertices, hedges, hindexes⟩ := hloaded g hg
    obtain ⟨author, hauthor, hdescribes⟩ := exists_of_rel_some (hvertices 1)
    obtain ⟨knows, hknows, hdescribes'⟩ := exists_of_rel_some (hedges 1)
    obtain ⟨ages, hages, hdenotes⟩ := exists_of_rel_some (hdescribes.properties.get? "ages")
    refine ⟨g, hg, ⟨author, hauthor, hdescribes.label, ?_⟩, ⟨knows, hknows, hdescribes'.outVertex⟩,
      hindexes .vertex "Person"⟩
    have hvalue : Value.ofJson (.array [.integer 41, .null]) = .ok ages := denotes_iff.mp hdenotes
    exact hages.trans (congrArg some (Except.ok.inj hvalue).symm)
  · have hdocuments : (twiceWritten.documents.flatMap objects) = [] :=
      List.flatMap_eq_nil_iff.mpr hobjects
    show ((twiceWritten.documents.flatMap objects).map objectFault ++ _).head? = _
    rw [hdocuments]
    rfl

end Fixture

end StartStep
