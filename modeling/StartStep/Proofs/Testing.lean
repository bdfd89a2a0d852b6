import StartStep.Proofs.Run

/-!
# What testing decides

Testing an element mixes a question with a check. The question is whether the
element satisfies the constraints; the check is whether the membership
constraints met on the way have lists to look into. `Satisfies` is the question
alone, said constraint by constraint, and the lemmas below take the check out
of the tests: where testing ends at all, its answer is the answer to the
question (`eq_decide_of_testAll`). `WellFormed` is the check alone.

The last section is about a place where planning reads constraints without an
element at hand. The planner takes a class label from the first constraint on
the label (`NamesClass`) and looks only at elements of that class. It loses no
element that satisfies everything, for the label of such an element is the one
that is named (`label_eq_of_satisfies`).
-/

namespace StartStep

/-! ## First matches -/

/-- An item is the first of a list that has a property. -/
def IsFirst {α : Type} (P : α → Prop) (items : List α) (a : α) : Prop :=
  ∃ before after, items = before ++ a :: after ∧ P a ∧ ∀ b ∈ before, ¬ P b

theorem IsFirst.mem {α : Type} {P : α → Prop} {items : List α} {a : α}
    (h : IsFirst P items a) : a ∈ items := by
  obtain ⟨before, after, rfl, -, -⟩ := h
  exact List.mem_append_right _ List.mem_cons_self

theorem IsFirst.holds {α : Type} {P : α → Prop} {items : List α} {a : α}
    (h : IsFirst P items a) : P a := by
  obtain ⟨_, _, -, ha, -⟩ := h
  exact ha

theorem find?_eq_some_iff_isFirst {α : Type} {P : α → Prop} {test : α → Bool}
    (htest : ∀ a, test a = true ↔ P a) {items : List α} {a : α} :
    items.find? test = some a ↔ IsFirst P items a := by
  have hbefore : ∀ before : List α,
      (∀ b ∈ before, (!test b) = true) ↔ ∀ b ∈ before, ¬ P b := by
    intro before
    refine forall₂_congr fun b _ => ?_
    rw [← htest b, Bool.not_eq_true', Bool.not_eq_true]
  rw [List.find?_eq_some_iff_append, htest a]
  simp only [hbefore]
  constructor
  · rintro ⟨ha, before, after, hitems, hnone⟩
    exact ⟨before, after, hitems, ha, hnone⟩
  · rintro ⟨before, after, hitems, ha, hnone⟩
    exact ⟨ha, before, after, hitems, hnone⟩

theorem IsFirst.unique {α : Type} {P : α → Prop} {items : List α} {a b : α}
    (h : IsFirst P items a) (h' : IsFirst P items b) : a = b := by
  classical
  have hfind := fun c => @find?_eq_some_iff_isFirst α P (fun c => decide (P c))
    (fun _ => decide_eq_true_iff) items c
  exact Option.some.inj (((hfind a).mpr h).symm.trans ((hfind b).mpr h'))

/-! ## Malformed constraints -/

namespace Constraint

/-- A membership constraint has a list to look into. -/
def WellFormed (c : Constraint) : Prop :=
  c.predicate.needsList = true → ∃ items, c.value = .list items

theorem exists_list_iff {v : Value} :
    (∃ items, v = .list items) ↔ v.items?.isSome = true := by
  cases v <;> simp [Value.items?]

instance decidableWellFormed (c : Constraint) : Decidable c.WellFormed :=
  decidable_of_iff (c.predicate.needsList = true → c.value.items?.isSome = true)
    (imp_congr_right fun _ => exists_list_iff.symm)

theorem listOperand_eq_ok_iff {c : Constraint} {items : List Value} :
    c.listOperand = .ok items ↔ c.value = .list items := by
  unfold listOperand
  cases c.value <;> simp [Value.items?]

end Constraint

/-! ## Satisfying constraints -/

/-- An element satisfies every one of the constraints. -/
def Satisfies (constraints : List Constraint) (e : Element) : Prop :=
  ∀ c ∈ constraints, c.test e = .ok true

theorem satisfies_cons {c : Constraint} {rest : List Constraint} {e : Element} :
    Satisfies (c :: rest) e ↔ c.test e = .ok true ∧ Satisfies rest e :=
  List.forall_mem_cons

theorem satisfies_append {constraints further : List Constraint} {e : Element} :
    Satisfies (constraints ++ further) e ↔ Satisfies constraints e ∧ Satisfies further e :=
  List.forall_mem_append

/-- All constraints were looked at and none was failed. -/
theorem testAll_eq_true_iff {e : Element} {constraints : List Constraint} :
    testAll e constraints = .ok true ↔ Satisfies constraints e := by
  induction constraints with
  | nil => simp [testAll, Satisfies]
  | cons c rest ih =>
      rw [testAll, satisfies_cons, bind_eq_ok]
      constructor
      · rintro ⟨b, hb, h⟩
        cases b with
        | true => exact ⟨hb, ih.mp h⟩
        | false => simp at h
      · rintro ⟨hc, hrest⟩
        exact ⟨true, hc, ih.mpr hrest⟩

instance decidableSatisfies (constraints : List Constraint) :
    DecidablePred (Satisfies constraints) := fun e =>
  match h : testAll e constraints with
  | .ok true => isTrue (testAll_eq_true_iff.mp h)
  | .ok false => isFalse fun hs => by simp [testAll_eq_true_iff.mpr hs] at h
  | .error _ => isFalse fun hs => by simp [testAll_eq_true_iff.mpr hs] at h

/-- Where testing ends, it has decided whether the element satisfies all. -/
theorem eq_decide_of_testAll {e : Element} {constraints : List Constraint} {b : Bool}
    (h : testAll e constraints = .ok b) : b = decide (Satisfies constraints e) := by
  cases b with
  | true => exact (decide_eq_true (testAll_eq_true_iff.mp h)).symm
  | false =>
      refine (decide_eq_false fun hs => ?_).symm
      rw [testAll_eq_true_iff.mpr hs] at h
      simp at h

/-! ## The class label

A label named by an operand that is not text names a class too, by the text of
the operand; but no element satisfies such a constraint, because labels are
text and text equals nothing else. -/

theorem eq_string_of_looseEq {s : String} {v : Value}
    (h : (Value.string s).looseEq v = true) : v = .string s := by
  cases v <;> simp_all [Value.looseEq]

/-- The first constraint on the label is an equality with a scalar, whose text
is the given label. -/
def NamesClass (constraints : List Constraint) (label : String) : Prop :=
  ∃ c, IsFirst (·.key = labelKey) constraints c ∧ c.predicate = .eq ∧
    (∀ items, c.value ≠ .list items) ∧ c.value.text = label

theorem Constraint.keyKind_eq_label_iff (c : Constraint) :
    (c.keyKind == .label) = true ↔ c.key = labelKey := by
  unfold keyKind KeyKind.ofKey
  by_cases hlabel : c.key = labelKey
  · simp [hlabel]
  · rw [if_neg hlabel]
    split <;> simp [hlabel]

theorem classLabel_eq_some_iff {constraints : List Constraint} {label : String} :
    classLabel constraints = some label ↔ NamesClass constraints label := by
  have hfirst := fun c =>
    @find?_eq_some_iff_isFirst _ _ _ Constraint.keyKind_eq_label_iff constraints c
  unfold classLabel NamesClass
  constructor
  · intro h
    split at h
    · next c hfind =>
        split at h
        · next hpred =>
            split at h
            · simp at h
            · next v hlist => exact ⟨c, (hfirst c).mp hfind, hpred, hlist, Option.some.inj h⟩
        · simp at h
    · simp at h
  · rintro ⟨c, hc, hpred, hlist, rfl⟩
    rw [(hfirst c).mpr hc]
    dsimp only
    rw [if_pos hpred]
    cases hv : c.value with
    | list items => exact absurd hv (hlist items)
    | null | bool | int | float | string => rfl

theorem not_namesClass_of_none {constraints : List Constraint}
    (h : classLabel constraints = none) (label : String) : ¬ NamesClass constraints label := by
  intro hnamed
  rw [classLabel_eq_some_iff.mpr hnamed] at h
  cases h

theorem label_eq_of_satisfies {constraints : List Constraint} {label : String}
    {e : Element} (h : classLabel constraints = some label)
    (hs : Satisfies constraints e) : e.label = label := by
  obtain ⟨c, hc, hpred, -, htext⟩ := classLabel_eq_some_iff.mp h
  have hkey : c.keyKind = .label := beq_iff_eq.mp (c.keyKind_eq_label_iff.mpr hc.holds)
  have htest := hs c hc.mem
  simp only [Constraint.test, Constraint.actual?, hkey, Constraint.holds, hpred,
    Except.ok.injEq] at htest
  rw [eq_string_of_looseEq htest] at htext
  exact htext

/-- A vertex with a name, to look at in examples. -/
def Element.named (id : ElementId) (label name : String) : Element :=
  ⟨id, .vertex, label, SortedMap.empty.insert "name" (.string name), none, none⟩

end StartStep
