import StartStep.Proofs.Predicates
import StartStep.Proofs.Rounding
import StartStep.Proofs.RoundTrip

/-!
# The laws of comparison

Values are compared for equality through lists of any depth, and for order only
between two numbers, two texts or two truth values. The laws of equality are
inductions over the two values. Those of order need none, but have to go through
every mix of integers and doubles, and there numbers are not all compared in one
way: two integers are compared as they are, an integer and a double as doubles.

What holds the mixes together is that rounding is monotone (`rank_widen_mono`). If
two of three numbers in a chain are integers, next to each other, then nothing is lost
but the strictness between the two, and the step to the double makes up for it. If the
double is in the middle, the two integers are apart as doubles, and monotonicity
read backwards says that they are apart as integers. Of the doubles
themselves it is enough to know that they are ordered by their ranks, and that a NaN
is not ordered at all.
-/

namespace StartStep

namespace Double

theorem order_eq_some_iff {x y : Double} {o : Ordering} :
    x.order y = some o ↔ x.isNaN = false ∧ y.isNaN = false ∧ compare x.rank y.rank = o := by
  unfold order
  cases x.isNaN <;> cases y.isNaN <;> simp

theorem numEq_iff_rank {x y : Double} :
    x.numEq y = true ↔ x.isNaN = false ∧ y.isNaN = false ∧ x.rank = y.rank := by
  rw [numEq_iff, order_eq_some_iff, Std.compare_eq_iff_eq]

theorem order_eq_lt_iff {x y : Double} :
    x.order y = some .lt ↔ x.isNaN = false ∧ y.isNaN = false ∧ x.rank < y.rank := by
  rw [order_eq_some_iff, Std.compare_eq_lt]

theorem numEq_self_iff {x : Double} : x.numEq x = true ↔ x.isNaN = false := by
  simp [numEq_iff_rank]

end Double

namespace Value

theorem natAbs_toInt_le (i : Int64) : i.toInt.natAbs ≤ 0x10000000000000000 := by
  have hlow := i.le_toInt
  have hhigh := i.toInt_lt
  omega

theorem isNaN_widen (i : Int64) : (widen i).isNaN = false :=
  Double.isNaN_of_isFinite (Double.isNearest_ofInt (natAbs_toInt_le i)).isFinite

theorem rank_widen_mono {i j : Int64} (h : i ≤ j) : (widen i).rank ≤ (widen j).rank := by
  have hscaled := Double.scaled_ofInt_mono (natAbs_toInt_le i) (natAbs_toInt_le j)
    (Int64.le_iff_toInt_le.mp h)
  by_contra hlt
  have := Double.scaled_lt_iff.mpr (Int.not_le.mp hlt)
  exact absurd hscaled (Int.not_le.mpr this)

/-! ## Equality -/

mutual

theorem looseEq_comm (a b : Value) : a.looseEq b = b.looseEq a := by
  match a with
  | .null => cases b <;> rfl
  | .bool p => cases b <;> simp only [looseEq, Bool.beq_comm]
  | .int i =>
      cases b with
      | int j => simp only [looseEq, Bool.beq_comm]
      | null | bool | float | string | list => rfl
  | .float x =>
      cases b with
      | float y => exact Bool.eq_iff_iff.mpr Double.numEq_comm
      | null | bool | int | string | list => rfl
  | .string s => cases b <;> simp only [looseEq, Bool.beq_comm]
  | .list as =>
      cases b with
      | list bs =>
          simp only [looseEq]
          exact looseEqItems_comm as bs
      | null | bool | int | float | string => rfl

theorem looseEqItems_comm (as bs : List Value) : looseEqItems as bs = looseEqItems bs as := by
  match as, bs with
  | [], [] | [], _ :: _ | _ :: _, [] => rfl
  | a :: as, b :: bs =>
      simp only [looseEqItems]
      rw [looseEq_comm a b, looseEqItems_comm as bs]

end

mutual

theorem looseEq_of_strictEq {a b : Value} (h : a.strictEq b = true) : a.looseEq b = true := by
  match a with
  | .null | .bool _ | .string _ => cases b <;> exact h
  | .int _ | .float _ => cases b <;> first | exact h | cases h
  | .list as =>
      cases b with
      | list bs =>
          simp only [strictEq] at h
          exact looseEqItems_of_strictEqItems h
      | null | bool | int | float | string => exact h

theorem looseEqItems_of_strictEqItems {as bs : List Value} (h : strictEqItems as bs = true) :
    looseEqItems as bs = true := by
  match as, bs with
  | [], [] | [], _ :: _ | _ :: _, [] => exact h
  | a :: as, b :: bs =>
      simp only [strictEqItems, Bool.and_eq_true] at h
      simp only [looseEqItems, Bool.and_eq_true]
      exact ⟨looseEq_of_strictEq h.1, looseEqItems_of_strictEqItems h.2⟩

end

mutual

theorem looseEq_self_iff (a : Value) :
    a.looseEq a = true ↔ ∀ x ∈ a.floats, x.isNaN = false := by
  match a with
  | .null | .bool _ | .int _ | .string _ => simp [looseEq, floats]
  | .float x => simp [looseEq, floats, Double.numEq_self_iff]
  | .list as =>
      simp only [looseEq, floats]
      exact looseEqItems_self_iff as

theorem looseEqItems_self_iff (as : List Value) :
    looseEqItems as as = true ↔ ∀ x ∈ itemFloats as, x.isNaN = false := by
  match as with
  | [] => simp [looseEqItems, itemFloats]
  | a :: as =>
      simp only [looseEqItems, itemFloats, Bool.and_eq_true, List.forall_mem_append]
      rw [looseEq_self_iff a, looseEqItems_self_iff as]

end

/-! ## Order -/

theorem order_swap (a b : Value) : b.order a = (a.order b).map Ordering.swap := by
  have hswap : ∀ {α : Type} [Ord α] [Std.OrientedOrd α] (x y : α),
      some (compare y x) = (some (compare x y)).map Ordering.swap := by
    intro α _ _ x y
    rw [Option.map_some, ← Std.OrientedCmp.eq_swap]
  cases a with
  | null | list => cases b <;> rfl
  | bool p =>
      cases b with
      | bool q => exact hswap p q
      | null | int | float | string | list => rfl
  | string s =>
      cases b with
      | string t => exact hswap s t
      | null | bool | int | float | list => rfl
  | int i =>
      cases b with
      | int j => exact hswap i j
      | float y => exact Double.order_swap _ _
      | null | bool | string | list => rfl
  | float x =>
      cases b with
      | int j => exact Double.order_swap _ _
      | float y => exact Double.order_swap _ _
      | null | bool | string | list => rfl

theorem order_int_lt_iff {i j : Int64} : (int i).order (int j) = some .lt ↔ i < j := by
  rw [order, Option.some.injEq, Std.compare_eq_lt]

theorem order_int_float_lt_iff {i : Int64} {x : Double} :
    (int i).order (float x) = some .lt ↔ x.isNaN = false ∧ (widen i).rank < x.rank := by
  rw [order, Double.order_eq_lt_iff, isNaN_widen]
  simp

theorem order_float_int_lt_iff {i : Int64} {x : Double} :
    (float x).order (int i) = some .lt ↔ x.isNaN = false ∧ x.rank < (widen i).rank := by
  rw [order, Double.order_eq_lt_iff, isNaN_widen]
  simp

/-- A chain of three numbers, the middle one an integer. -/
theorem order_lt_trans_int {j : Int64} {a c : Value} (hab : a.order (int j) = some .lt)
    (hbc : (int j).order c = some .lt) : a.order c = some .lt := by
  cases a with
  | null | bool | string | list => cases hab
  | int i =>
      have hij := order_int_lt_iff.mp hab
      cases c with
      | null | bool | string | list => cases hbc
      | int k => exact order_int_lt_iff.mpr (Int64.lt_trans hij (order_int_lt_iff.mp hbc))
      | float z =>
          obtain ⟨hz, hjz⟩ := order_int_float_lt_iff.mp hbc
          have hle := rank_widen_mono (Int64.le_of_lt hij)
          exact order_int_float_lt_iff.mpr ⟨hz, by omega⟩
  | float x =>
      obtain ⟨hx, hxj⟩ := order_float_int_lt_iff.mp hab
      cases c with
      | null | bool | string | list => cases hbc
      | int k =>
          have hle := rank_widen_mono (Int64.le_of_lt (order_int_lt_iff.mp hbc))
          exact order_float_int_lt_iff.mpr ⟨hx, by omega⟩
      | float z =>
          obtain ⟨hz, hjz⟩ := order_int_float_lt_iff.mp hbc
          exact Double.order_eq_lt_iff.mpr ⟨hx, hz, by omega⟩

/-- A chain of three numbers, the middle one a double. -/
theorem order_lt_trans_float {y : Double} {a c : Value} (hab : a.order (float y) = some .lt)
    (hbc : (float y).order c = some .lt) : a.order c = some .lt := by
  cases a with
  | null | bool | string | list => cases hab
  | int i =>
      obtain ⟨-, hiy⟩ := order_int_float_lt_iff.mp hab
      cases c with
      | null | bool | string | list => cases hbc
      | int k =>
          obtain ⟨-, hyk⟩ := order_float_int_lt_iff.mp hbc
          rw [order_int_lt_iff]
          -- In the other order the double could not be between the two.
          by_contra hki
          have hle := rank_widen_mono (Int64.not_lt.mp hki)
          omega
      | float z =>
          obtain ⟨-, hz, hyz⟩ := Double.order_eq_lt_iff.mp hbc
          exact order_int_float_lt_iff.mpr ⟨hz, by omega⟩
  | float x =>
      obtain ⟨hx, -, hxy⟩ := Double.order_eq_lt_iff.mp hab
      cases c with
      | null | bool | string | list => cases hbc
      | int k =>
          obtain ⟨-, hyk⟩ := order_float_int_lt_iff.mp hbc
          exact order_float_int_lt_iff.mpr ⟨hx, by omega⟩
      | float z =>
          obtain ⟨-, hz, hyz⟩ := Double.order_eq_lt_iff.mp hbc
          exact Double.order_eq_lt_iff.mpr ⟨hx, hz, by omega⟩

theorem order_lt_trans {a b c : Value} (hab : a.order b = some .lt) (hbc : b.order c = some .lt) :
    a.order c = some .lt := by
  have htrans : ∀ {α : Type} [Ord α] [Std.TransOrd α] {x y z : α}, some (compare x y) = some .lt →
      some (compare y z) = some .lt → some (compare x z) = some .lt := by
    intro α _ _ x y z hxy hyz
    exact congrArg some (Std.TransCmp.lt_trans (Option.some.inj hxy) (Option.some.inj hyz))
  cases b with
  | null | list => cases a <;> cases hab
  | int j => exact order_lt_trans_int hab hbc
  | float y => exact order_lt_trans_float hab hbc
  | bool q =>
      cases a with
      | bool p =>
          cases c with
          | bool r => exact htrans hab hbc
          | null | int | float | string | list => cases hbc
      | null | int | float | string | list => cases hab
  | string t =>
      cases a with
      | string s =>
          cases c with
          | string u => exact htrans hab hbc
          | null | bool | int | float | list => cases hbc
      | null | bool | int | float | list => cases hab

/-! ## The laws -/

/-- Loose equality is symmetric, contains strict equality, and is reflexive except for
the values with a NaN somewhere. The order of two values is reversed when
they are exchanged, equal in it are just those that are loosely equal
and have an order, and it is transitive through every mix of numbers. -/
theorem comparison_laws :
    (∀ a b : Value, a.looseEq b = b.looseEq a) ∧
    (∀ a b : Value, a.strictEq b = true → a.looseEq b = true) ∧
    (∀ a : Value, a.looseEq a = true ↔ ∀ x ∈ a.floats, x.isNaN = false) ∧
    (∀ a b : Value, b.order a = (a.order b).map Ordering.swap) ∧
    (∀ a b : Value, a.order b = some .eq → a.looseEq b = true) ∧
    (∀ a b : Value, a.looseEq b = true → a.order b ≠ none → a.order b = some .eq) ∧
    ∀ a b c : Value, a.order b = some .lt → b.order c = some .lt → a.order c = some .lt := by
  refine ⟨looseEq_comm, fun a b => looseEq_of_strictEq, looseEq_self_iff, order_swap, ?_, ?_, ?_⟩
  · exact fun a b h => (order_eq_some_eq_iff.mp h).1
  · exact fun a b h hcomparable => order_eq_some_eq_iff.mpr ⟨h, hcomparable⟩
  · exact fun a b c => order_lt_trans

/-- Two and a half lies between two and three, two is equal in both ways as an integer
and as a double, and so is a nested list to itself in the one way it has. -/
theorem comparison_laws_numbers :
    (int 2).order (int 3) = some .lt ∧ (int 2).order (float (Double.ofInt 2)) = some .eq ∧
      (list [list [string "x"], null]).looseEq (list [list [string "x"], null]) = true := by
  have hbelow : (int 2).order (float ⟨false, 0x4004000000000000⟩) = some .lt := by decide +kernel
  have habove : (float ⟨false, 0x4004000000000000⟩).order (int 3) = some .lt := by decide +kernel
  have htwo : (int 2).looseEq (float (Double.ofInt 2)) = true := by decide +kernel
  obtain ⟨-, hstrict, -, -, -, heq, htrans⟩ := comparison_laws
  exact ⟨htrans _ _ _ hbelow habove, heq _ _ htwo (by decide +kernel), hstrict _ _ rfl⟩

end Value

end StartStep
