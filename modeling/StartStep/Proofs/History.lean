import StartStep.Proofs.Faults
import StartStep.Proofs.Neutrality
import StartStep.Session

/-!
# What a session has made of its graph

A graph in memory is known from its history: the elements put into it and the
indexes defined on it, in order. Which requests of a session belong to the
history can be seen from the requests and from whether they were granted; a
refused definition of an index leaves no trace, and one that takes the graph
with it starts the history anew (`History.note`). Questions, plans and
resolutions belong to no history, and that they leave the graph as it is, apart
from the calls it has counted, is most of the work of a step (`Same`).

`answerAll_history` is what comes of it. At the end of every session the graph
holds what the history says: under a kind and an identifier the element that was
put there last, and the indexes in the order of their definition. What a step
returns is therefore what was put there last, whatever has been made to fail.
For a probe this rests once more on the names of classes, which tell the kinds
apart.
-/

namespace StartStep

namespace MemGraph

/-! ## What is read -/

theorem resolve_withoutFault {g : MemGraph} {s : Step} {r : Resolution}
    (h : (s.attach g.provider).resolve.result = .ok r) :
    (s.attach g.withoutFault.provider).resolve.result = .ok r := by
  cases hf : g.fault with
  | none =>
      have hg : g.withoutFault = g := by rw [withoutFault, ← hf]
      rw [hg]
      exact h
  | some f =>
      have hg : g.withFault f = g := by rw [withFault, ← hf]
      rw [← hg] at h
      by_cases hstrikes : f.Strikes s (s.attach g.withoutFault.provider).plan.result
      · obtain ⟨e, he⟩ := resolve_withFault_of_strikes hstrikes
        rw [he] at h
        simp at h
      · exact (resolve_withFault_of_not_strikes hstrikes).symm.trans h

theorem Filed.withoutFault {g : MemGraph} (hg : g.Filed) : g.withoutFault.Filed := by
  intro kind
  cases kind with
  | vertex => exact hg .vertex
  | edge => exact hg .edge

/-- Whatever is made to fail, what a step returns is stored among the elements
of its kind. -/
theorem mem_stored_of_resolve {g : MemGraph} {s : Step} {r : Resolution} (hg : g.Filed)
    (h : (s.attach g.provider).resolve.result = .ok r) {e : Element}
    (he : e ∈ r.elements) : e ∈ g.stored s.kind := by
  have hstored : g.withoutFault.stored s.kind = g.stored s.kind := by cases s.kind <;> rfl
  obtain ⟨path, hplan, hlist⟩ :=
    exists_of_attach_resolve hg.withoutFault rfl (resolve_withoutFault h)
  rw [hlist, mem_listing_iff hg.withoutFault hplan] at he
  rw [← hstored]
  exact he.1.1

/-- What is stored is found under its identifier. -/
theorem Filed.get?_of_mem {g : MemGraph} (hg : g.Filed) {kind : ElementKind} {e : Element}
    (he : e ∈ g.stored kind) : (g.elements kind).get? e.id = some e := by
  rw [hg.get?_eq]
  exact (find?_id_eq_some_iff (hg.ids_nodup kind)).mpr ⟨he, rfl⟩

/-- The elements of a full read, before a failure as well, come by increasing
identifiers. -/
theorem Filed.scan_increasing {g : MemGraph} (hg : g.Filed) {kind : ElementKind}
    {items : Stream} (h : g.provider.scan kind = .ok items) :
    (items.filterMap Except.toOption).Pairwise (·.id < ·.id) := by
  obtain ⟨-, -, h⟩ := bind_eq_ok.mp h
  cases h
  have hmap : ∀ elements : List Element,
      (elements.map .ok : Stream).filterMap Except.toOption = elements := by
    intro elements
    rw [List.filterMap_map]
    exact List.filterMap_some
  have hstored := hg.stored_increasing kind
  unfold stream
  split
  · next after _ =>
      rw [List.filterMap_append, hmap]
      show (_ ++ []).Pairwise _
      rw [List.append_nil]
      exact hstored.sublist (List.take_sublist after _)
  · rw [hmap]
    exact hstored

/-! ## One addition -/

theorem get?_insert (g : MemGraph) (e : Element) (kind : ElementKind) (id : ElementId) :
    ((g.insert e).elements kind).get? id =
      if e.kind = kind ∧ e.id = id then some e else (g.elements kind).get? id := by
  unfold MemGraph.insert
  cases he : e.kind <;> cases kind
  case vertex.vertex => simpa [elements] using g.vertices.get?_insert e.id e id
  case edge.edge => simpa [elements] using g.edges.get?_insert e.id e id
  case vertex.edge | edge.vertex => simp [elements]

end MemGraph

namespace Session

/-! ## Histories -/

/-- What was put into a graph, in order. -/
structure History where
  inserted : List Element
  indexed : List Index

namespace History

def empty : History := ⟨[], []⟩

/-- The history after a request that was granted or refused. -/
def note (h : History) (granted : Bool) : Request → History
  | .insert e => { h with inserted := h.inserted ++ [e] }
  | .createIndex index =>
      if granted then { h with indexed := h.indexed ++ [index] } else h
  | .withIndex name kind label fields =>
      if granted then
        { h with indexed := h.indexed ++ [MemGraph.labelIndex name kind label fields] }
      else empty
  | _ => h

def noteAll (h : History) : List Request → List (Outcome Answer) → History
  | r :: requests, o :: outcomes => (h.note o.result.isOk r).noteAll requests outcomes
  | _, _ => h

/-- The element that was put last under a kind and an identifier. -/
def last? (h : History) (kind : ElementKind) (id : ElementId) : Option Element :=
  h.inserted.reverse.find? fun e => e.kind = kind ∧ e.id = id

/-- A graph that came about by the history. -/
structure Describes (h : History) (g : MemGraph) : Prop where
  reachable : g.Reachable
  elements : ∀ kind id, (g.elements kind).get? id = h.last? kind id
  indexes : g.indexes = h.indexed

theorem describes_empty : empty.Describes .empty where
  reachable := .empty
  elements kind id := by cases kind <;> rfl
  indexes := rfl

theorem Describes.insert {h : History} {g : MemGraph} (hg : h.Describes g) (e : Element) :
    Describes { h with inserted := h.inserted ++ [e] } (g.insert e) where
  reachable := hg.reachable.grows (.insert g e)
  elements kind id := by
    rw [MemGraph.get?_insert, hg.elements]
    unfold last?
    rw [List.reverse_append, List.reverse_singleton, List.singleton_append, List.find?_cons]
    by_cases he : e.kind = kind ∧ e.id = id
    · simp [he]
    · simp [he]
  indexes := by
    rw [← hg.indexes]
    exact g.indexes_insert e

theorem Describes.createIndex {h : History} {g g' : MemGraph} (hg : h.Describes g)
    {index : Index} (hindex : g.createIndex index = .ok g') :
    Describes { h with indexed := h.indexed ++ [index] } g' where
  reachable := hg.reachable.grows (.createIndex index hindex)
  elements kind id := by
    rw [MemGraph.elements_of_createIndex hindex]
    exact hg.elements kind id
  indexes := by
    obtain ⟨-, -, rfl⟩ := MemGraph.createIndex_eq_ok_iff.mp hindex
    rw [← hg.indexes]

theorem Describes.withFault {h : History} {g : MemGraph} (hg : h.Describes g)
    (fault : FaultPoint) : h.Describes (g.withFault fault) where
  reachable := hg.reachable.withFault fault
  elements kind id := by
    rw [← hg.elements]
    cases kind <;> rfl
  indexes := hg.indexes

theorem Describes.called {h : History} {g : MemGraph} (hg : h.Describes g)
    (calls : List Call) : h.Describes { g with calls := g.calls.countAll calls } where
  reachable := hg.reachable.grows (.called g calls)
  elements kind id := by
    rw [← hg.elements]
    cases kind <;> rfl
  indexes := hg.indexes

end History

/-! ## Requests that ask -/

/-- The session has the graph as it was, but for calls that it has counted. -/
def Same (g : MemGraph) (s : State) : Prop :=
  ∃ calls, s.ground = .memory { g with calls := g.calls.countAll calls }

theorem Same.refl {g : MemGraph} {s : State} (hs : s.ground = .memory g) : Same g s := ⟨[], hs⟩

theorem Same.after {g : MemGraph} {s s' : State} (hs : Same g s) {calls : List Call}
    (h : s'.ground = s.ground.after calls) : Same g s' := by
  obtain ⟨before, hbefore⟩ := hs
  refine ⟨before ++ calls, ?_⟩
  rw [h, hbefore, CallCounts.countAll_append]
  rfl

theorem Same.act {g : MemGraph} {s : State} (hs : Same g s) (step : Step) (a : Action) :
    Same g (act s step a).1 := by
  cases a with
  | attach | warn | labels | has | text | detailed | parts => exact hs
  | plan | findIndex | resolve | explain => exact hs.after rfl

theorem Same.actAll {g : MemGraph} {s : State} (hs : Same g s) (step : Step)
    (actions : List Action) : Same g (actAll s step actions).1 := by
  induction actions generalizing s step with
  | nil => exact hs
  | cons a rest ih => exact ih (hs.act step a) _

/-- A request that changes the graph, if it is granted. -/
def Request.changes : Request → Bool
  | .insert _ | .createIndex _ | .withIndex .. | .fault _ => true
  | _ => false

theorem Same.answer {g : MemGraph} {s : State} (hs : Same g s) {r : Request}
    (hr : r.changes = false) : Same g (answer s r).1 := by
  cases r with
  | indexedKeys | classIndexes | className | lookup | scan | probe | plan | findIndex
  | resolve => exact hs.after rfl
  | profile => exact hs
  | step kind ids actions => exact hs.actAll (.new kind ids) actions
  | calls | size =>
      obtain ⟨ground, profile⟩ := s
      obtain ⟨before, hbefore⟩ := hs
      cases hbefore
      exact ⟨before, rfl⟩
  | insert | createIndex | withIndex | fault => cases hr

/-! ## A step of a session and a whole one -/

theorem answer_history {h : History} {g : MemGraph} {s : State} (hg : h.Describes g)
    (hs : s.ground = .memory g) (r : Request) :
    ∃ g', (answer s r).1.ground = .memory g' ∧
      (h.note (answer s r).2.result.isOk r).Describes g' := by
  have hasks : r.changes = false →
      ∃ g', (answer s r).1.ground = .memory g' ∧ h.Describes g' := by
    intro hr
    obtain ⟨calls, hcalls⟩ := (Same.refl hs).answer hr
    exact ⟨_, hcalls, hg.called calls⟩
  obtain ⟨ground, profile⟩ := s
  cases hs
  cases r with
  | indexedKeys | classIndexes | className | lookup | scan | probe | plan | findIndex
  | resolve | profile | calls | size | step => exact hasks rfl
  | insert e => exact ⟨_, rfl, hg.insert e⟩
  | fault fault => exact ⟨_, rfl, hg.withFault fault⟩
  | createIndex index =>
      simp only [answer, change]
      cases hindex : g.createIndex index with
      | error f => exact ⟨g, rfl, hg⟩
      | ok g' => exact ⟨g', rfl, hg.createIndex hindex⟩
  | withIndex name kind label fields =>
      simp only [answer, change]
      cases hindex : g.withIndex name kind label fields with
      | error f => exact ⟨.empty, rfl, History.describes_empty⟩
      | ok g' => exact ⟨g', rfl, hg.createIndex hindex⟩

/-- A definition of an index that is refused changes nothing. -/
theorem answer_createIndex_error {g : MemGraph} {s : State} (hs : s.ground = .memory g)
    {index : Index} {f : Failure}
    (h : (answer s (.createIndex index)).2.result = .error f) :
    (answer s (.createIndex index)).1 = s := by
  obtain ⟨ground, profile⟩ := s
  cases hs
  simp only [answer, change] at h ⊢
  cases hindex : g.createIndex index with
  | error f' => rfl
  | ok g' =>
      rw [hindex] at h
      simp [Except.map] at h

theorem answerAll_history_of_describes {h : History} {g : MemGraph} {s : State}
    (hg : h.Describes g) (hs : s.ground = .memory g) (requests : List Request) :
    ∃ g', (answerAll s requests).1.ground = .memory g' ∧
      (h.noteAll requests (answerAll s requests).2).Describes g' := by
  induction requests generalizing h g s with
  | nil => exact ⟨g, hs, hg⟩
  | cons r rest ih =>
      obtain ⟨g', hs', hg'⟩ := answer_history hg hs r
      exact ih hg' hs'

/-- A session on an empty graph. -/
def State.start : State := ⟨.memory .empty, .zero⟩

/-- After any requests, every element of the graph is kept among those of its
kind under its own identifier, and is the one put there last; the indexes are
those defined, in this order, with different names and at least one field each;
and a refused definition of another one changes nothing. Hence, whatever is made
to fail, what a step returns is of its kind and is what was put last under its
identifier, and a full read comes by increasing identifiers. -/
theorem answerAll_history (requests : List Request) :
    let run := answerAll .start requests
    let h := History.empty.noteAll requests run.2
    ∃ g, run.1.ground = .memory g ∧ g.Filed ∧ g.Indexed ∧ g.indexes = h.indexed ∧
      (∀ kind id, (g.elements kind).get? id = h.last? kind id) ∧
      (∀ index f, (answer run.1 (.createIndex index)).2.result = .error f →
        (answer run.1 (.createIndex index)).1 = run.1) ∧
      (∀ (step : Step) r, (step.attach g.provider).resolve.result = .ok r → ∀ e ∈ r.elements,
        e.kind = step.kind ∧ (g.elements step.kind).get? e.id = some e ∧
          h.last? step.kind e.id = some e) ∧
      ∀ kind items, g.provider.scan kind = .ok items →
        (items.filterMap Except.toOption).Pairwise (·.id < ·.id) := by
  intro run h
  obtain ⟨g, hs, hg⟩ := answerAll_history_of_describes History.describes_empty
    (rfl : State.start.ground = .memory .empty) requests
  have hfiled := hg.reachable.filed
  refine ⟨g, hs, hfiled, hg.reachable.indexed, hg.indexes, hg.elements,
    fun index f => answer_createIndex_error hs, fun step r hr e he => ?_,
    fun kind items => hfiled.scan_increasing⟩
  have hstored := MemGraph.mem_stored_of_resolve hfiled hr he
  have hget := hfiled.get?_of_mem hstored
  exact ⟨hfiled.kind_of_mem hstored, hget, (hg.elements _ _).symm.trans hget⟩

end Session

end StartStep
