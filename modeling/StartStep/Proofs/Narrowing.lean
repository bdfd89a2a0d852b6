import StartStep.Proofs.History
import StartStep.Proofs.Stability

/-!
# More constraints find less

Constraints that are added behind others can change how a step is resolved. A
label among them may name a class where none was named, and an equality may
drive a probe where everything was read; then the two resolutions read different
elements, from different primitives and in different orders. What they find is
comparable all the same, and the reason differs with the path of the first. If it
was a lookup or a full read, it found everything that is asked for, and more
constraints ask for less. If it was a probe, it may have missed elements, since
the probed key may be a reserved one; but a probe that is settled on is settled
on by first matches, and nothing behind a first match can change it
(`Planner.findIndex_append`). So the second resolution makes the same probe and
misses the same elements.
-/

namespace StartStep

namespace MemGraph

/-- A step on a path finds what it finds with more constraints, if with these it
makes the same probe wherever it makes one. -/
theorem mem_listing_of_append {g : MemGraph} {s : Step} {further : List Constraint}
    {path path' : AccessPath} (hg : g.Filed)
    (hplan : (s.attach g.provider).plan.result = .ok path)
    (hplan' : ((further.foldl Step.has s).attach g.provider).plan.result = .ok path')
    (hprobe : ∀ q, path = .byIndex q → path' = .byIndex q) {e : Element}
    (he : e ∈ listing (g.stored s.kind) (s.constraints ++ further) path') :
    e ∈ listing (g.stored s.kind) s.constraints path := by
  rw [Step.foldl_has] at hplan'
  obtain ⟨⟨hstored, hids, hs⟩, hcarries⟩ := (mem_listing_iff hg hplan').mp he
  refine (mem_listing_iff hg hplan).mpr ⟨⟨hstored, hids, (satisfies_append.mp hs).1⟩, ?_⟩
  intro q hq
  exact hcarries q (hprobe q hq)

/-- A planned probe is planned whatever constraints are added. -/
theorem plan_foldl_has {s : Step} {p : Provider} {q : IndexQuery}
    (h : (s.attach p).plan.result = .ok (.byIndex q)) (further : List Constraint) :
    ((further.foldl Step.has s).attach p).plan.result = .ok (.byIndex q) := by
  obtain ⟨-, hpath⟩ | ⟨hids, query, hquery, hpath⟩ := Step.exists_of_attach_plan h
  · cases hpath
  · cases query with
    | none => cases hpath
    | some q' =>
        cases hpath
        rw [Step.attach_findIndex_result] at hquery
        have hsettled : (Planner.findIndex s.constraints s.kind p).result ≠ .ok none := by
          rw [hquery]
          simp
        rw [Step.foldl_has, Step.attach_plan_result, if_pos hids, Step.attach_findIndex_result,
          Planner.findIndex_append hsettled further, hquery]
        rfl

/-- Constraints that are added behind those of a step only take away from what it
finds, whatever paths the two resolutions follow. -/
theorem resolve_narrows {g : MemGraph} {s : Step} {further : List Constraint}
    {r r' : Resolution} (hg : g.Reachable)
    (h : (s.attach g.provider).resolve.result = .ok r)
    (h' : ((further.foldl Step.has s).attach g.provider).resolve.result = .ok r') :
    ∀ e ∈ r'.elements, e ∈ r.elements := by
  have hfiled := hg.filed.withoutFault
  obtain ⟨path, hplan, hlist⟩ := exists_of_attach_resolve hfiled rfl (resolve_withoutFault h)
  obtain ⟨path', hplan', hlist'⟩ :=
    exists_of_attach_resolve hfiled rfl (resolve_withoutFault h')
  intro e he
  rw [hlist', Step.foldl_has] at he
  rw [hlist]
  refine mem_listing_of_append hfiled hplan hplan' (fun q hq => ?_) he
  have hprobe := plan_foldl_has (hq ▸ hplan) further
  exact Except.ok.inj (hplan'.symm.trans hprobe)

/-- Two persons are found by reading everything. With a label named behind, the
names are probed for in their own order, one of them twice. -/
theorem resolve_narrows_people :
    let s := (Step.new .vertex []).has (.within "name" [.string "Ben", .string "Ada",
      .string "Ben"])
    let further : List Constraint := [.label "Person", ⟨"name", .neq, .string "Ada"⟩]
    people.Reachable ∧
      ∃ r r', (s.attach people.provider).resolve.result = .ok r ∧
        ((further.foldl Step.has s).attach people.provider).resolve.result = .ok r' ∧
        r.path.name = "FullScan" ∧ r'.path.name = "IndexProbe" ∧
        r.elements = [.named 1 "Person" "Ada", .named 2 "Person" "Ben"] ∧
        r'.elements = [.named 2 "Person" "Ben", .named 2 "Person" "Ben"] ∧
        ∀ e ∈ r'.elements, e ∈ r.elements := by
  intro s further
  refine ⟨people_reachable, _, _, rfl, rfl, rfl, rfl, rfl, rfl, ?_⟩
  exact @resolve_narrows people s further _ _ people_reachable rfl rfl

end MemGraph

end StartStep
