import StartStep.Proofs.Testing

/-!
# What a constraint decides

A test asks two things at once: what the element has under the key, and how
that compares with the operand. Kept apart they are `Element.Has` and
`Predicate.Relates`, and a test succeeds if and only if something is there and
is related (`test_eq_true_iff`). A test fails if and only if the constraint is
`Malformed`, and this does not mention the element: nothing that is stored can
hide a malformed constraint, or bring one about. So there are three outcomes of
testing one constraint, and for a list there are three as well, since the first
constraint that is not satisfied decides (`testAll_outcomes`).

The laws of the predicates come from the relations alone. Where an element has
a value, negation is negation and membership is equality with some item. Order
is less regular: `looseEq` holds between lists and between nulls, which have no
order, so that "at most" is "less or equal" only where the two values have an
order. The bridge is `order_eq_some_eq_iff`: values with an order are equal in
it exactly if they are equal. Where the element has no value, no predicate holds, the
negated ones included, and `predicate_laws` keeps the two situations apart.
-/

namespace StartStep

/-! ## What an element has under a key -/

theorem KeyKind.ofKey_eq_label_iff {key : String} :
    KeyKind.ofKey key = .label ↔ key = labelKey := by
  unfold ofKey
  by_cases h : key = labelKey
  · simp [h]
  · rw [if_neg h]
    split <;> simp [h]

theorem KeyKind.ofKey_eq_id_iff {key : String} : KeyKind.ofKey key = .id ↔ key = idKey := by
  have hne : idKey ≠ labelKey := by decide
  unfold ofKey
  by_cases h : key = idKey
  · simp [h, hne]
  · rw [if_neg h]
    split <;> simp [h]

/-- What an element has under a key: its label, its identifier if that is a
signed integer, or the property of this name. -/
inductive Element.Has (e : Element) : String → Value → Prop
  | label : e.Has labelKey (.string e.label)
  | id {i : Int64} (h : i.toInt = e.id.toNat) : e.Has idKey (.int i)
  | property {key : String} {value : Value} (hkey : KeyKind.ofKey key = .property)
      (h : e.property? key = some value) : e.Has key value

namespace Constraint

theorem actual?_eq_some_iff {c : Constraint} {e : Element} {v : Value} :
    c.actual? e = some v ↔ e.Has c.key v := by
  obtain ⟨key, predicate, value⟩ := c
  unfold actual? keyKind
  constructor
  · intro h
    split at h
    · next hkey =>
        obtain rfl := KeyKind.ofKey_eq_label_iff.mp hkey
        cases h
        exact .label
    · next hkey =>
        obtain rfl := KeyKind.ofKey_eq_id_iff.mp hkey
        split at h
        · next hid =>
            cases h
            exact .id (Int64.toInt_ofInt_of_le (by omega) (by omega))
        · cases h
    · next hkey => exact .property hkey h
  · intro h
    cases h with
    | label => rfl
    | @id i hi =>
        have hlt : e.id.toNat < 0x8000000000000000 := by
          have := i.toInt_lt
          omega
        show (if e.id.toNat < 0x8000000000000000 then _ else _) = _
        rw [if_pos hlt, ← hi, Int64.ofInt_toInt]
    | property hkey hvalue =>
        rw [hkey]
        exact hvalue

theorem actual?_eq_none_iff {c : Constraint} {e : Element} :
    c.actual? e = none ↔ ∀ v, ¬ e.Has c.key v := by
  rw [Option.eq_none_iff_forall_ne_some]
  exact forall_congr' fun v => not_congr actual?_eq_some_iff

end Constraint

theorem Element.Has.unique {e : Element} {key : String} {v w : Value} (h : e.Has key v)
    (h' : e.Has key w) : v = w := by
  have hv := (@Constraint.actual?_eq_some_iff (.eq key .null) e v).mpr h
  have hw := (@Constraint.actual?_eq_some_iff (.eq key .null) e w).mpr h'
  exact Option.some.inj (hv.symm.trans hw)

/-! ## What a predicate asks -/

/-- How a predicate wants a value and an operand to be related. -/
def Predicate.Relates : Predicate → Value → Value → Prop
  | .eq, a, v => a.looseEq v = true
  | .neq, a, v => a.looseEq v ≠ true
  | .lt, a, v => a.order v = some .lt
  | .le, a, v => a.order v = some .lt ∨ a.order v = some .eq
  | .gt, a, v => a.order v = some .gt
  | .ge, a, v => a.order v = some .gt ∨ a.order v = some .eq
  | .within, a, v => ∃ items, v = .list items ∧ ∃ w ∈ items, a.looseEq w = true
  | .without, a, v => ∃ items, v = .list items ∧ ∀ w ∈ items, a.looseEq w ≠ true

theorem Predicate.needsList_iff {p : Predicate} :
    p.needsList = true ↔ p = .within ∨ p = .without := by
  cases p <;> simp [needsList]

namespace Constraint

/-- A membership constraint that has no list to look into. -/
def Malformed (c : Constraint) : Prop :=
  (c.predicate = .within ∨ c.predicate = .without) ∧ ∀ items, c.value ≠ .list items

theorem malformed_iff {c : Constraint} : c.Malformed ↔ ¬ c.WellFormed := by
  unfold Malformed WellFormed
  rw [Classical.not_imp, Predicate.needsList_iff, not_exists]

theorem listOperand_eq_error_iff {c : Constraint} {f : Failure} :
    c.listOperand = .error f ↔
      (∀ items, c.value ≠ .list items) ∧ f = .operandNotList c.key := by
  unfold listOperand
  cases c.value <;> simp [Value.items?, eq_comm]

theorem holds_eq_true_iff {c : Constraint} {a : Value} :
    c.holds a = .ok true ↔ c.predicate.Relates a c.value := by
  unfold holds
  cases c.predicate with
  | eq => simp [Predicate.Relates]
  | neq => simp [Predicate.Relates]
  | lt | le | gt | ge =>
      simp only [Predicate.Relates, Except.ok.injEq]
      cases h : a.order c.value with
      | none => simp
      | some o => cases o <;> simp
  | within =>
      simp only [Predicate.Relates, bind_eq_ok, listOperand_eq_ok_iff, Except.ok.injEq,
        List.any_eq_true]
  | without =>
      simp only [Predicate.Relates, bind_eq_ok, listOperand_eq_ok_iff, Except.ok.injEq,
        Bool.not_eq_true', List.any_eq_false]

theorem holds_eq_error_iff {c : Constraint} {a : Value} {f : Failure} :
    c.holds a = .error f ↔ c.Malformed ∧ f = .operandNotList c.key := by
  unfold holds Malformed
  cases c.predicate with
  | eq | neq | lt | le | gt | ge => simp
  | within | without => simp [bind_eq_error, listOperand_eq_error_iff]

/-! ## The outcomes of a test -/

theorem test_eq_true_iff {c : Constraint} {e : Element} :
    c.test e = .ok true ↔ ∃ a, e.Has c.key a ∧ c.predicate.Relates a c.value := by
  unfold test
  cases hactual : c.actual? e with
  | some a =>
      have ha := actual?_eq_some_iff.mp hactual
      dsimp only
      rw [holds_eq_true_iff]
      constructor
      · intro h
        exact ⟨a, ha, h⟩
      · rintro ⟨b, hb, h⟩
        rw [ha.unique hb]
        exact h
  | none =>
      have hnone := actual?_eq_none_iff.mp hactual
      constructor
      · intro h
        -- Without a value the test is settled by the operand, and never passed.
        dsimp only at h
        split at h
        · obtain ⟨_, _, h⟩ := bind_eq_ok.mp h
          cases h
        · cases h
      · rintro ⟨a, ha, -⟩
        exact absurd ha (hnone a)

/-- A test fails for a reason that the constraint alone has. -/
theorem test_eq_error_iff {c : Constraint} {e : Element} {f : Failure} :
    c.test e = .error f ↔ c.Malformed ∧ f = .operandNotList c.key := by
  unfold test
  cases c.actual? e with
  | some a => exact holds_eq_error_iff
  | none =>
      dsimp only
      by_cases hneeds : c.predicate.needsList = true
      · rw [if_pos hneeds, bind_eq_error, listOperand_eq_error_iff]
        have hmembership := Predicate.needsList_iff.mp hneeds
        simp [Malformed, hmembership]
      · have hmembership := mt Predicate.needsList_iff.mpr hneeds
        rw [if_neg hneeds]
        simp [Malformed, hmembership]

theorem test_eq_false_iff {c : Constraint} {e : Element} :
    c.test e = .ok false ↔ ¬ c.Malformed ∧ c.test e ≠ .ok true := by
  have herror := fun f => @test_eq_error_iff c e f
  cases h : c.test e with
  | error f =>
      have hmalformed := ((herror f).mp h).1
      simp [hmalformed]
  | ok b =>
      have hmalformed : ¬ c.Malformed := by
        intro hc
        have := (herror _).mpr ⟨hc, rfl⟩
        rw [h] at this
        cases this
      cases b <;> simp [hmalformed]

end Constraint

/-! ## Testing all constraints -/

/-- Testing an element comes to a constraint: those in front of it are
satisfied. -/
def Reaches (e : Element) (constraints : List Constraint) (c : Constraint) : Prop :=
  ∃ before after, constraints = before ++ c :: after ∧ Satisfies before e

theorem Reaches.mem {e : Element} {constraints : List Constraint} {c : Constraint}
    (h : Reaches e constraints c) : c ∈ constraints := by
  obtain ⟨before, after, rfl, -⟩ := h
  exact List.mem_append_right _ List.mem_cons_self

theorem reaches_cons {e : Element} {c d : Constraint} {rest : List Constraint} :
    Reaches e (c :: rest) d ↔ d = c ∨ c.test e = .ok true ∧ Reaches e rest d := by
  constructor
  · rintro ⟨before, after, hsplit, hbefore⟩
    cases before with
    | nil =>
        left
        exact (List.cons.inj hsplit).1.symm
    | cons b before =>
        obtain ⟨rfl, rfl⟩ := List.cons.inj hsplit
        obtain ⟨hc, hbefore⟩ := satisfies_cons.mp hbefore
        exact .inr ⟨hc, before, after, rfl, hbefore⟩
  · rintro (rfl | ⟨hc, before, after, rfl, hbefore⟩)
    · exact ⟨[], rest, rfl, fun _ h => absurd h List.not_mem_nil⟩
    · exact ⟨c :: before, after, rfl, satisfies_cons.mpr ⟨hc, hbefore⟩⟩

theorem testAll_eq_error_iff {e : Element} {constraints : List Constraint} {f : Failure} :
    testAll e constraints = .error f ↔
      ∃ c, Reaches e constraints c ∧ c.test e = .error f := by
  induction constraints with
  | nil => simp [testAll, Reaches]
  | cons c rest ih =>
      rw [testAll, bind_eq_error]
      simp only [reaches_cons]
      constructor
      · rintro (h | ⟨b, hb, h⟩)
        · exact ⟨c, .inl rfl, h⟩
        · cases b with
          | true =>
              obtain ⟨d, hd, h⟩ := ih.mp h
              exact ⟨d, .inr ⟨hb, hd⟩, h⟩
          | false => cases h
      · rintro ⟨d, rfl | ⟨hc, hd⟩, h⟩
        · exact .inl h
        · exact .inr ⟨true, hc, ih.mpr ⟨d, hd, h⟩⟩

/-- Where every constraint is well formed, testing does end. -/
theorem testAll_of_wellFormed {constraints : List Constraint}
    (h : ∀ c ∈ constraints, c.WellFormed) (e : Element) :
    ∃ b, testAll e constraints = .ok b := by
  cases htest : testAll e constraints with
  | ok b => exact ⟨b, rfl⟩
  | error f =>
      obtain ⟨c, hreached, hfailed⟩ := testAll_eq_error_iff.mp htest
      have hmalformed := (Constraint.test_eq_error_iff.mp hfailed).1
      exact absurd (h c hreached.mem) (Constraint.malformed_iff.mp hmalformed)

theorem Satisfies.not_malformed {constraints : List Constraint} {e : Element}
    (h : Satisfies constraints e) : ∀ c ∈ constraints, ¬ c.Malformed := by
  intro c hc hmalformed
  have herror : c.test e = .error _ := Constraint.test_eq_error_iff.mpr ⟨hmalformed, rfl⟩
  rw [h c hc] at herror
  cases herror

/-- Whether a test fails, and how, is known from the constraint. Testing a list
fails at a malformed constraint that it comes to, passes if all constraints are
well formed and satisfied, and is failed by the element in all other cases. -/
theorem testAll_outcomes (e : Element) :
    (∀ (c : Constraint) f, c.test e = .error f ↔ c.Malformed ∧ f = .operandNotList c.key) ∧
    ∀ constraints,
      (∀ f, testAll e constraints = .error f ↔
        ∃ c, Reaches e constraints c ∧ c.Malformed ∧ f = .operandNotList c.key) ∧
      (testAll e constraints = .ok true ↔
        (∀ c ∈ constraints, ¬ c.Malformed) ∧ Satisfies constraints e) ∧
      (testAll e constraints = .ok false ↔
        (∀ c, Reaches e constraints c → ¬ c.Malformed) ∧ ¬ Satisfies constraints e) := by
  refine ⟨fun c f => Constraint.test_eq_error_iff, fun constraints => ?_⟩
  have herror : ∀ f, testAll e constraints = .error f ↔
      ∃ c, Reaches e constraints c ∧ c.Malformed ∧ f = .operandNotList c.key := by
    intro f
    simp only [testAll_eq_error_iff, Constraint.test_eq_error_iff]
  refine ⟨herror, ?_, ?_⟩
  · rw [testAll_eq_true_iff]
    constructor
    · intro h
      exact ⟨h.not_malformed, h⟩
    · exact fun h => h.2
  · rw [← testAll_eq_true_iff]
    constructor
    · intro h
      refine ⟨fun c hc hmalformed => ?_, by simp [h]⟩
      have := (herror _).mpr ⟨c, hc, hmalformed, rfl⟩
      rw [h] at this
      cases this
    · rintro ⟨hreached, hfalse⟩
      cases h : testAll e constraints with
      | error f =>
          obtain ⟨c, hc, hmalformed, -⟩ := (herror f).mp h
          exact absurd hmalformed (hreached c hc)
      | ok b =>
          cases b with
          | true => exact absurd h hfalse
          | false => rfl

/-! ## Order and equality -/

theorem Double.order_swap (x y : Double) : y.order x = (x.order y).map Ordering.swap := by
  unfold order
  rw [Bool.or_comm]
  split
  · rfl
  · rw [Option.map_some, ← Std.OrientedCmp.eq_swap]

theorem Double.numEq_iff {x y : Double} : x.numEq y = true ↔ x.order y = some .eq := beq_iff_eq

theorem Double.numEq_comm {x y : Double} : x.numEq y = true ↔ y.numEq x = true := by
  rw [numEq_iff, numEq_iff, order_swap x y]
  cases x.order y with
  | none => simp
  | some o => cases o <;> simp

namespace Value

/-- The two values have an order. -/
def Comparable (a b : Value) : Prop := a.order b ≠ none

/-- Of values that have an order, those that are equal in it are equal. Lists and
nulls can be equal without having one. -/
theorem order_eq_some_eq_iff {a b : Value} :
    a.order b = some .eq ↔ a.looseEq b = true ∧ a.Comparable b := by
  unfold Comparable
  have hdouble : ∀ x y : Double,
      x.order y = some .eq ↔ x.numEq y = true ∧ x.order y ≠ none := by
    intro x y
    rw [Double.numEq_iff]
    constructor
    · intro h
      simp [h]
    · exact fun h => h.1
  cases a with
  | null | list => cases b <;> simp [order]
  | bool a => cases b <;> simp [order, looseEq]
  | string a => cases b <;> simp [order, looseEq]
  | int a =>
      cases b with
      | int b => simp [order, looseEq]
      | float b => exact hdouble _ _
      | null | bool | string | list => simp [order]
  | float a =>
      cases b with
      | int b =>
          -- Here the integer stands first when the two are compared for equality.
          rw [order, looseEq, Double.numEq_comm]
          exact hdouble _ _
      | float b => exact hdouble _ _
      | null | bool | string | list => simp [order]

end Value

/-! ## Where an element has a value -/

namespace Element

/-- An element passes the test of a constraint on a key. -/
def Passes (e : Element) (key : String) (p : Predicate) (operand : Value) : Prop :=
  (Constraint.mk key p operand).test e = .ok true

variable {e : Element} {key : String} {a v : Value} {p q : Predicate}

theorem Has.passes_iff (h : e.Has key a) : e.Passes key p v ↔ p.Relates a v := by
  unfold Passes
  rw [Constraint.test_eq_true_iff]
  constructor
  · rintro ⟨b, hb, hrelates⟩
    rw [h.unique hb]
    exact hrelates
  · intro hrelates
    exact ⟨a, h, hrelates⟩

/-- Predicates that ask for opposite things have opposite tests. -/
theorem Has.opposite (h : e.Has key a) (hp : ¬ (Constraint.mk key p v).Malformed)
    (hq : ¬ (Constraint.mk key q v).Malformed) (hpq : q.Relates a v ↔ ¬ p.Relates a v) :
    ∃ b, (Constraint.mk key p v).test e = .ok b ∧ (Constraint.mk key q v).test e = .ok (!b) := by
  rw [← h.passes_iff, ← h.passes_iff] at hpq
  by_cases hpass : e.Passes key p v
  · have hfail := mt hpq.mp (not_not_intro hpass)
    exact ⟨true, hpass, Constraint.test_eq_false_iff.mpr ⟨hq, hfail⟩⟩
  · exact ⟨false, Constraint.test_eq_false_iff.mpr ⟨hp, hpass⟩, hpq.mpr hpass⟩

theorem Has.passes_le_iff (h : e.Has key a) :
    e.Passes key .le v ↔ e.Passes key .lt v ∨ e.Passes key .eq v ∧ a.Comparable v := by
  rw [h.passes_iff, h.passes_iff, h.passes_iff]
  exact or_congr_right Value.order_eq_some_eq_iff

theorem Has.passes_ge_iff (h : e.Has key a) :
    e.Passes key .ge v ↔ e.Passes key .gt v ∨ e.Passes key .eq v ∧ a.Comparable v := by
  rw [h.passes_iff, h.passes_iff, h.passes_iff]
  exact or_congr_right Value.order_eq_some_eq_iff

theorem Has.passes_within_iff (h : e.Has key a) {items : List Value} :
    e.Passes key .within (.list items) ↔ ∃ w ∈ items, e.Passes key .eq w := by
  simp only [h.passes_iff]
  constructor
  · rintro ⟨_, hitems, w, hw, heq⟩
    cases hitems
    exact ⟨w, hw, heq⟩
  · intro hw
    exact ⟨items, rfl, hw⟩

theorem Has.pairwise_not_passes (h : e.Has key a) (v : Value) :
    [Predicate.lt, .eq, .gt].Pairwise fun p q => ¬ (e.Passes key p v ∧ e.Passes key q v) := by
  have hne : ∀ o, o ≠ .eq → a.order v = some o → a.looseEq v = true → False := by
    intro o ho horder heq
    have := Value.order_eq_some_eq_iff.mpr ⟨heq, by simp [Value.Comparable, horder]⟩
    rw [horder] at this
    exact ho (Option.some.inj this)
  simp only [h.passes_iff, List.pairwise_cons, List.mem_cons, List.not_mem_nil, or_false,
    forall_eq_or_imp, forall_eq, false_implies, implies_true, List.Pairwise.nil, and_true]
  refine ⟨⟨?_, ?_⟩, ?_⟩
  · rintro ⟨hlt, heq⟩
    exact hne .lt (by simp) hlt heq
  · rintro ⟨hlt, hgt⟩
    have := hlt.symm.trans hgt
    cases this
  · rintro ⟨heq, hgt⟩
    exact hne .gt (by simp) hgt heq

end Element

/-! ## The values to probe for -/

/-- What a driving constraint has a probe look for: its operand, or the items of
the list that it asks for membership in. -/
def Constraint.ProbesFor (c : Constraint) (values : List Value) : Prop :=
  c.predicate = .eq ∧ values = [c.value] ∨ c.predicate = .within ∧ c.value = .list values

theorem Constraint.probeValues_eq_ok_iff {c : Constraint} {values : List Value} :
    c.probeValues = .ok values ↔ c.ProbesFor values := by
  unfold probeValues ProbesFor
  cases c.predicate with
  | eq => simp [eq_comm]
  | within => simp [listOperand_eq_ok_iff]
  | neq | lt | le | gt | ge | without => simp

theorem Constraint.probeValues_eq_error_iff {c : Constraint} {f : Failure}
    (hpred : c.predicate = .eq ∨ c.predicate = .within) :
    c.probeValues = .error f ↔
      c.predicate = .within ∧ (∀ items, c.value ≠ .list items) ∧ f = .operandNotList c.key := by
  unfold probeValues
  rcases hpred with h | h
  · simp [h]
  · simp [h, listOperand_eq_error_iff]

/-- The test of a constraint and the values to probe for on its behalf say the
same of an element. -/
theorem Constraint.ProbesFor.test_eq_true_iff {c : Constraint} {values : List Value}
    (h : c.ProbesFor values) {e : Element} :
    c.test e = .ok true ↔ ∃ a, e.Has c.key a ∧ ∃ v ∈ values, a.looseEq v = true := by
  rw [Constraint.test_eq_true_iff]
  refine exists_congr fun a => and_congr_right fun _ => ?_
  obtain ⟨hpred, rfl⟩ | ⟨hpred, hvalue⟩ := h
  · rw [hpred]
    simp [Predicate.Relates]
  · rw [hpred, hvalue]
    simp [Predicate.Relates]

/-- An element has under a property key a value that equals the given one as
filters and probes compare. -/
def Element.carries (e : Element) (key : String) (value : Value) : Bool :=
  (e.property? key).any (·.looseEq value)

theorem Element.carries_iff {e : Element} {key : String} {value : Value} :
    e.carries key value = true ↔
      ∃ actual, e.property? key = some actual ∧ actual.looseEq value = true := by
  simp [Element.carries, Option.any_eq_true]

/-- What an index is probed for finds every element that passes the test. -/
theorem carries_of_test {c : Constraint} {e : Element} {values : List Value}
    (hkey : c.keyKind = .property) (hvalues : c.probeValues = .ok values)
    (htest : c.test e = .ok true) : ∃ v ∈ values, e.carries c.key v = true := by
  have hprobes := Constraint.probeValues_eq_ok_iff.mp hvalues
  obtain ⟨a, ha, v, hv, heq⟩ := hprobes.test_eq_true_iff.mp htest
  have hactual := Constraint.actual?_eq_some_iff.mpr ha
  unfold Constraint.actual? at hactual
  rw [hkey] at hactual
  exact ⟨v, hv, Element.carries_iff.mpr ⟨a, hactual, heq⟩⟩

/-! ## The laws -/

/-- Where an element has a value under a key, negated predicates are negations,
membership is equality with an item, at most one of less, equal and greater
holds, and the two weak orders are the strict ones or equality of values that
have an order. Where it has none, no well-formed constraint holds. A test that
can drive a probe is passed exactly with a value equal to one that is probed for. -/
theorem predicate_laws (e : Element) (key : String) :
    (∀ a, e.Has key a →
      (∀ v, ∃ b, (Constraint.mk key .eq v).test e = .ok b ∧
        (Constraint.mk key .neq v).test e = .ok (!b)) ∧
      (∀ items, ∃ b, (Constraint.mk key .within (.list items)).test e = .ok b ∧
        (Constraint.mk key .without (.list items)).test e = .ok (!b)) ∧
      (∀ items, e.Passes key .within (.list items) ↔ ∃ v ∈ items, e.Passes key .eq v) ∧
      (∀ v, [Predicate.lt, .eq, .gt].Pairwise
        fun p q => ¬ (e.Passes key p v ∧ e.Passes key q v)) ∧
      (∀ v, e.Passes key .le v ↔ e.Passes key .lt v ∨ e.Passes key .eq v ∧ a.Comparable v) ∧
      (∀ v, e.Passes key .ge v ↔ e.Passes key .gt v ∨ e.Passes key .eq v ∧ a.Comparable v)) ∧
    ((∀ a, ¬ e.Has key a) → ∀ p v, (Constraint.mk key p v).WellFormed →
      (Constraint.mk key p v).test e = .ok false) ∧
    (∀ p v values, (Constraint.mk key p v).probeValues = .ok values →
      (e.Passes key p v ↔ ∃ a, e.Has key a ∧ ∃ w ∈ values, a.looseEq w = true)) := by
  refine ⟨fun a h => ⟨fun v => ?_, fun items => ?_, ?_, ?_, ?_, ?_⟩, ?_, ?_⟩
  · exact h.opposite (by simp [Constraint.Malformed]) (by simp [Constraint.Malformed]) Iff.rfl
  · refine h.opposite (by simp [Constraint.Malformed]) (by simp [Constraint.Malformed]) ?_
    simp [Predicate.Relates]
  · exact fun items => h.passes_within_iff
  · exact h.pairwise_not_passes
  · exact fun v => h.passes_le_iff
  · exact fun v => h.passes_ge_iff
  · intro hnone p v hwell
    have hnot : (Constraint.mk key p v).test e ≠ .ok true := by
      rw [ne_eq, Constraint.test_eq_true_iff]
      rintro ⟨a, ha, -⟩
      exact hnone a ha
    have hwell' := mt Constraint.malformed_iff.mp (not_not_intro hwell)
    exact Constraint.test_eq_false_iff.mpr ⟨hwell', hnot⟩
  · intro p v values hvalues
    exact (Constraint.probeValues_eq_ok_iff.mp hvalues).test_eq_true_iff

def unsignedElement : Element := ⟨0xFFFFFFFFFFFFFFFF, .vertex, "Person", .empty, none, none⟩

/-- An identifier that is no signed integer is not different from a number, and a
label is at most itself. -/
theorem predicate_laws_unsigned :
    (⟨idKey, .neq, .int 1⟩ : Constraint).test unsignedElement = .ok false ∧
      unsignedElement.Passes labelKey .le (.string "Person") := by
  have hactual : (⟨idKey, .neq, .int 1⟩ : Constraint).actual? unsignedElement = none := rfl
  have horder : (Value.string "Person").order (.string "Person") = some .eq := rfl
  obtain ⟨-, hmissing, -⟩ := predicate_laws unsignedElement idKey
  obtain ⟨hlaws, -, -⟩ := predicate_laws unsignedElement labelKey
  obtain ⟨-, -, -, -, hle, -⟩ := hlaws _ .label
  constructor
  · exact hmissing (Constraint.actual?_eq_none_iff.mp hactual) .neq _ (by decide)
  · exact (hle _).mpr (.inr ⟨rfl, (Value.order_eq_some_eq_iff.mp horder).2⟩)

end StartStep
