import StartStep.Proofs.Counting
import StartStep.Proofs.Listing
import StartStep.Proofs.Predicates

/-!
# The class that a constraint names

The first constraint on the label is read twice. Planning takes the text of its operand for
the name of a class, whatever scalar the operand is; filtering compares the label, which is
a string, with the operand itself. The two readings agree on strings. On a number, say, they
do not: a class is named by its digits, and an element of just this class is filtered out,
because no string is equal to a number (`classLabel_of_number`). Nothing wrong comes of it,
since what planning leaves out is filtered out anyway.

If the first constraint on the label is something else than an equality with a scalar, then
planning has no class to ask about, and it does not look for one in the constraints behind
it. So the only request is for the identifiers or for everything.
-/

namespace StartStep

/-! ## Both readings of the operand -/

theorem looseEq_string_iff {s : String} {v : Value} :
    (Value.string s).looseEq v = true ↔ v = .string s := by
  constructor
  · exact eq_string_of_looseEq
  · rintro rfl
    simp [Value.looseEq]

theorem Constraint.test_of_label {c : Constraint} (hkey : c.key = labelKey)
    (hpredicate : c.predicate = .eq) (e : Element) :
    c.test e = .ok ((Value.string e.label).looseEq c.value) := by
  have hkind : c.keyKind = .label := KeyKind.ofKey_eq_label_iff.mpr hkey
  simp only [Constraint.test, Constraint.actual?, hkind, Constraint.holds, hpredicate]

/-- The constraint that names a class can be tested, and the elements that satisfy it are those
of the class, provided that it names the class by a string. -/
theorem NamesClass.exists_test {constraints : List Constraint} {label : String}
    (h : NamesClass constraints label) {c : Constraint}
    (hc : IsFirst (·.key = labelKey) constraints c) (e : Element) :
    ∃ b, c.test e = .ok b ∧ (b = true ↔ c.value = .string label ∧ e.label = label) := by
  obtain ⟨c', hfirst, hpredicate, -, htext⟩ := h
  obtain rfl := hc.unique hfirst
  refine ⟨_, Constraint.test_of_label hc.holds hpredicate e, ?_⟩
  rw [looseEq_string_iff]
  constructor
  · intro hvalue
    rw [hvalue] at htext
    obtain rfl : e.label = label := htext
    exact ⟨hvalue, rfl⟩
  · rintro ⟨hvalue, rfl⟩
    exact hvalue

theorem classLabel_eq_none_iff {constraints : List Constraint} :
    classLabel constraints = none ↔ ∀ c, IsFirst (·.key = labelKey) constraints c →
      c.predicate ≠ .eq ∨ ∃ items, c.value = .list items := by
  simp only [Option.eq_none_iff_forall_ne_some, ne_eq, classLabel_eq_some_iff]
  constructor
  · intro h c hfirst
    by_cases hlist : ∃ items, c.value = .list items
    · exact .inr hlist
    · exact .inl fun hpredicate => h _ ⟨c, hfirst, hpredicate, not_exists.mp hlist, rfl⟩
  · rintro h label ⟨c, hfirst, hpredicate, hlist, -⟩
    rcases h c hfirst with hne | ⟨items, hitems⟩
    · exact hne hpredicate
    · exact hlist items hitems

/-! ## Steps that name no class -/

namespace Step

variable {s : Step} {p : Provider}

theorem findIndex_of_unnamed (h : classLabel s.constraints = none) :
    (s.attach p).findIndex.result = .ok none := by
  rw [attach_findIndex_result, Planner.findIndex_result, h]

/-- Without a class nothing is asked before the request. -/
theorem plan_of_unnamed (h : classLabel s.constraints = none) :
    (s.attach p).plan.result = .ok (if s.ids = [] then .fullScan else .byId s.ids) ∧
      (s.attach p).plan.calls = [] := by
  constructor
  · rw [attach_plan_result, findIndex_of_unnamed h]
    split <;> rfl
  · have hcalls : (s.attach p).plan.calls =
        (Planner.plan s.config s.constraints s.ids s.kind p).calls := rfl
    rw [hcalls, Planner.plan_calls,
      Planner.findIndex_calls_of_unnamed (not_namesClass_of_none h), ite_self]

theorem resolve_calls_of_unnamed (h : classLabel s.constraints = none) :
    ∃ n, (s.attach p).resolve.calls =
      (if s.ids = [] then .scan s.kind else .lookup s.kind s.ids) :: List.replicate n .pull := by
  obtain ⟨hplan, hcalls⟩ := plan_of_unnamed (p := p) h
  obtain ⟨n, hrequest⟩ := Resolver.exists_calls _ s.kind s.constraints p
  refine ⟨n, ?_⟩
  rw [resolve_calls hplan, hcalls, hrequest, List.nil_append]
  split <;> rfl

end Step

/-- An element satisfies the constraint that names a class if and only if it is of this class and
the constraint names it by a string. No class is named exactly if the first constraint on the
label is no equality with a scalar, or if there is none; and then no index is probed, whatever
the engine has to offer. -/
theorem classLabel_agrees :
    (∀ constraints label, classLabel constraints = some label →
      (∃ c, IsFirst (·.key = labelKey) constraints c) ∧
      ∀ c, IsFirst (·.key = labelKey) constraints c → ∀ e : Element, ∃ b, c.test e = .ok b ∧
        (b = true ↔ c.value = .string label ∧ e.label = label)) ∧
    (∀ constraints, classLabel constraints = none ↔
      ∀ c, IsFirst (·.key = labelKey) constraints c →
        c.predicate ≠ .eq ∨ ∃ items, c.value = .list items) ∧
    ∀ (s : Step) (p : Provider), classLabel s.constraints = none →
      (s.attach p).findIndex.result = .ok none ∧
      (s.attach p).plan.result = .ok (if s.ids = [] then .fullScan else .byId s.ids) ∧
      (∃ n, (s.attach p).resolve.calls =
        (if s.ids = [] then .scan s.kind else .lookup s.kind s.ids) :: List.replicate n .pull) ∧
      ∀ index key values, .probe index key values ∉ (s.attach p).resolve.calls := by
  refine ⟨fun constraints label h => ?_, fun constraints => classLabel_eq_none_iff, fun s p h => ?_⟩
  · have hnamed := classLabel_eq_some_iff.mp h
    obtain ⟨c, hc, -⟩ := classLabel_eq_some_iff.mp h
    exact ⟨⟨c, hc⟩, fun c hc => hnamed.exists_test hc⟩
  · obtain ⟨n, hcalls⟩ := Step.resolve_calls_of_unnamed (p := p) h
    refine ⟨Step.findIndex_of_unnamed h, (Step.plan_of_unnamed h).1, ⟨n, hcalls⟩, ?_⟩
    intro index key values hprobe
    rw [hcalls] at hprobe
    split at hprobe <;> simp at hprobe

/-- Only people satisfy the constraint that names people. Named behind a membership constraint on
the label they are not probed for, although their class has an index. -/
theorem classLabel_agrees_people :
    let person := Constraint.label "Person"
    let listed := Constraint.within labelKey [.string "Person", .string "Robot"]
    let s := (((Step.new .vertex []).has listed).has person).has (.eq "name" (.string "Ada"))
    (∀ e : Element, ∃ b, person.test e = .ok b ∧ (b = true ↔ e.label = "Person")) ∧
      (s.attach MemGraph.people.provider).plan.result = .ok .fullScan ∧
      ∀ index key values,
        .probe index key values ∉ (s.attach MemGraph.people.provider).resolve.calls := by
  intro person listed s
  obtain ⟨hagree, -, hscan⟩ := classLabel_agrees
  constructor
  · intro e
    obtain ⟨b, hb, hiff⟩ := (hagree [person] "Person" rfl).2 person ⟨[], [], rfl, rfl, by simp⟩ e
    exact ⟨b, hb, hiff.trans (and_iff_right rfl)⟩
  · obtain ⟨-, hplan, -, hprobes⟩ := hscan s MemGraph.people.provider rfl
    exact ⟨hplan, hprobes⟩

/-- An element of the class `5` does not satisfy a constraint that names the class by a number. -/
theorem classLabel_of_number :
    classLabel [.eq labelKey (.int 5)] = some "5" ∧
      (Element.named 1 "5" "Ada").label = "5" ∧
      (Constraint.eq labelKey (.int 5)).test (.named 1 "5" "Ada") = .ok false := by
  have hclass : classLabel [.eq labelKey (.int 5)] = some "5" := by decide
  exact ⟨hclass, rfl, rfl⟩

end StartStep
