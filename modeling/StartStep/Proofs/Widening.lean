import StartStep.Proofs.Comparison

/-!
# What widening makes of mixed comparisons

An integer and a double are compared as doubles, after the integer has been rounded.
So such a comparison does not say whether the two are one number, but whether
the double is the one that the integer falls to. That is `IsNearest`, and the
statements below have no rounding left in them.

How much this differs from comparing the numbers depends on the integer alone. If it
fits a significand, then it is a double itself and every comparison is exact. If it
does not, there is one double that it should not be equal to and is. The order
suffers no more than equality does: rounding never carries an integer past
another double, so that less and greater are true of the two numbers whenever
they are said (`Stands`).

Equality is not transitive any more, since two integers are compared exactly and yet
may fall to one double. It fails in no other way: `Clash` says that two values have
such integers in the same place, and `looseEq_trans_iff` that a chain of
two equalities closes if and only if its ends do not clash.
-/

namespace StartStep

namespace Double

/-- The binary digits of an integer, the zeros at its end left away, are at most
fifty-three. -/
def FitsSignificand (i : Int) : Prop := ∃ k, i.natAbs < 1 <<< (53 + k) ∧ 1 <<< k ∣ i.natAbs

/-- The border itself has one digit more, which is a zero. -/
theorem fitsSignificand_of_natAbs_le {i : Int} (h : i.natAbs ≤ 0x20000000000000) :
    FitsSignificand i := by
  have hborder : 1 <<< 53 = 0x20000000000000 := rfl
  rcases Nat.lt_or_eq_of_le h with hlt | heq
  · exact ⟨0, hborder ▸ hlt, Nat.one_dvd _⟩
  · rw [FitsSignificand, heq]
    exact ⟨1, by decide, by decide⟩

theorem fitsSignificand_of_shiftLeft_eq {i : Int} {q p e : Nat} (hq : q < 2 * binade)
    (h : q <<< p = i.natAbs <<< e) : FitsSignificand i := by
  have hb : 2 * binade = 2 ^ 53 := rfl
  rw [hb] at hq
  rw [Nat.shiftLeft_eq, Nat.shiftLeft_eq] at h
  rcases Nat.le_total p e with hle | hle
  · obtain ⟨d, rfl⟩ := Nat.exists_eq_add_of_le hle
    have hcancel : q = i.natAbs * 2 ^ d := by
      rw [Nat.pow_add, Nat.mul_left_comm, Nat.mul_comm q] at h
      exact Nat.eq_of_mul_eq_mul_left (Nat.two_pow_pos p) h
    refine ⟨0, ?_, Nat.one_dvd _⟩
    rw [Nat.one_shiftLeft]
    exact Nat.lt_of_le_of_lt (hcancel ▸ Nat.le_mul_of_pos_right _ (Nat.two_pow_pos d)) hq
  · obtain ⟨k, rfl⟩ := Nat.exists_eq_add_of_le hle
    have hcancel : q * 2 ^ k = i.natAbs := by
      rw [Nat.pow_add, Nat.mul_left_comm, Nat.mul_comm i.natAbs] at h
      exact Nat.eq_of_mul_eq_mul_left (Nat.two_pow_pos e) h
    refine ⟨k, ?_, ?_⟩
    · rw [← hcancel, Nat.one_shiftLeft, Nat.pow_add]
      exact Nat.mul_lt_mul_of_pos_right hq (Nat.two_pow_pos k)
    · rw [← hcancel, Nat.one_shiftLeft]
      exact Nat.dvd_mul_left _ _

theorem fitsSignificand_of_scaled_eq {i : Int} {x : Double} (h : x.scaled = i * unitsInOne) :
    FitsSignificand i := by
  have hunits : units x.magnitude.val = i.natAbs <<< 1074 := by
    rw [← natAbs_mul_unitsInOne, ← h, scaled, scaledMagnitude_eq]
    split <;> omega
  obtain ⟨p, q, hm, hq, hp⟩ := exists_eq_add x.magnitude.val
  rw [hm, units_eq (Nat.le_of_lt hq) hp] at hunits
  exact fitsSignificand_of_shiftLeft_eq hq hunits

theorem isFinite_congr {x y : Double} (h : x.rank = y.rank) : x.isFinite = y.isFinite := by
  have hmagnitude : x.magnitude.val = y.magnitude.val := by
    unfold rank at h
    split at h <;> split at h <;> omega
  rw [isFinite, isFinite, hmagnitude]

/-- How an integer stands to a finite double: strictly on one side of it and
not falling to it, or falling to it. -/
inductive Stands (i : Int) (x : Double) : Ordering → Prop
  | below (h : i * unitsInOne < x.scaled) (hfar : ¬ x.IsNearest i) : Stands i x .lt
  | nearest (h : x.IsNearest i) : Stands i x .eq
  | above (h : x.scaled < i * unitsInOne) (hfar : ¬ x.IsNearest i) : Stands i x .gt

section Conversion

variable {i : Int} (hi : i.natAbs ≤ 0x10000000000000000)
include hi

theorem numEq_ofInt_iff {x : Double} : (ofInt i).numEq x = true ↔ x.IsNearest i := by
  have hround := isNearest_ofInt hi
  rw [isNearest_iff hi, numEq_iff_rank, eq_comm (a := x.scaled), scaled_inj_iff]
  constructor
  · rintro ⟨-, -, hrank⟩
    exact ⟨isFinite_congr hrank ▸ hround.isFinite, hrank⟩
  · rintro ⟨hx, hrank⟩
    exact ⟨isNaN_of_isFinite hround.isFinite, isNaN_of_isFinite hx, hrank⟩

theorem order_ofInt {x : Double} (hx : x.isFinite = true) :
    ∃ o, (ofInt i).order x = some o ∧ Stands i x o := by
  have hround := isNearest_ofInt hi
  have hnearest := @isNearest_iff i hi x
  have hside := hround.lt_iff hx
  rw [order_of_isFinite hround.isFinite hx]
  refine ⟨_, rfl, ?_⟩
  rcases Int.lt_trichotomy (ofInt i).scaled x.scaled with h | h | h
  · rw [Std.compare_eq_lt.mpr h]
    exact .below (hside.1.mp h).1 fun hfalls => (hside.1.mp h).2 (hnearest.mp hfalls).2.symm
  · rw [Std.compare_eq_iff_eq.mpr h]
    exact .nearest (hnearest.mpr ⟨hx, h.symm⟩)
  · rw [Std.compare_eq_gt.mpr h]
    exact .above (hside.2.mp h).1 fun hfalls => (hside.2.mp h).2 (hnearest.mp hfalls).2.symm

theorem order_ofInt_of_fits (hfits : FitsSignificand i) {x : Double} (hx : x.isFinite = true) :
    (ofInt i).order x = some (compare (i * unitsInOne) x.scaled) := by
  obtain ⟨k, hk, hdvd⟩ := hfits
  rw [order_of_isFinite (isNearest_ofInt hi).isFinite hx, scaled_ofInt_of_dvd hi hk hdvd]

end Conversion

end Double

namespace Value

open Double

/-! ## Transitivity -/

/-- Two values have different integers in the same place that fall to one double. -/
inductive Clash : Value → Value → Prop
  | int {i k : Int64} (hne : i ≠ k) (h : Coincide i.toInt k.toInt) : Clash (.int i) (.int k)
  | item {as cs : List Value} {n : Nat} {a c : Value} (ha : as[n]? = some a)
      (hc : cs[n]? = some c) (h : Clash a c) : Clash (.list as) (.list cs)

/-- The items of two lists clash in some place. -/
def ItemsClash (as cs : List Value) : Prop :=
  ∃ (n : Nat) (a c : Value), as[n]? = some a ∧ cs[n]? = some c ∧ Clash a c

theorem clash_list_iff {as cs : List Value} : Clash (.list as) (.list cs) ↔ ItemsClash as cs := by
  constructor
  · intro h
    cases h with
    | item ha hc h => exact ⟨_, _, _, ha, hc, h⟩
  · rintro ⟨n, a, c, ha, hc, h⟩
    exact .item ha hc h

theorem itemsClash_cons_iff {a c : Value} {as cs : List Value} :
    ItemsClash (a :: as) (c :: cs) ↔ Clash a c ∨ ItemsClash as cs := by
  constructor
  · rintro ⟨n, x, y, hx, hy, h⟩
    cases n with
    | zero =>
        cases hx
        cases hy
        exact .inl h
    | succ n => exact .inr ⟨n, x, y, hx, hy, h⟩
  · rintro (h | ⟨n, x, y, hx, hy, h⟩)
    · exact ⟨0, a, c, rfl, rfl, h⟩
    · exact ⟨n + 1, x, y, hx, hy, h⟩

theorem numEq_trans {x y z : Double} (hxy : x.numEq y = true) (hyz : y.numEq z = true) :
    x.numEq z = true := by
  obtain ⟨hx, -, hrank⟩ := numEq_iff_rank.mp hxy
  obtain ⟨-, hz, hrank'⟩ := numEq_iff_rank.mp hyz
  exact numEq_iff_rank.mpr ⟨hx, hz, hrank.trans hrank'⟩

/-- A chain of numbers around a double. Only its two integers, if both ends are
integers, are not compared as doubles. -/
theorem looseEq_trans_float {y : Double} {a c : Value} (hab : a.looseEq (float y) = true)
    (hbc : (float y).looseEq c = true) : a.looseEq c = true ↔ ¬ Clash a c := by
  cases a with
  | null | bool | string | list => cases hab
  | float x =>
      have hnot : ∀ c, ¬ Clash (float x) c := fun _ h => nomatch h
      cases c with
      | null | bool | string | list => cases hbc
      | int k => exact iff_of_true (numEq_trans hbc (numEq_comm.mp hab)) (hnot _)
      | float z => exact iff_of_true (numEq_trans hab hbc) (hnot _)
  | int i =>
      cases c with
      | null | bool | string | list => cases hbc
      | float z => exact iff_of_true (numEq_trans hab hbc) fun h => nomatch h
      | int k =>
          have hi := (numEq_ofInt_iff (natAbs_toInt_le i)).mp hab
          have hk := (numEq_ofInt_iff (natAbs_toInt_le k)).mp hbc
          rw [looseEq, beq_iff_eq]
          constructor
          · rintro rfl (h | _)
            exact absurd rfl h
          · intro hclash
            by_contra hne
            exact hclash (.int hne ⟨y, hi, hk⟩)

mutual

theorem looseEq_trans_iff {a b c : Value} (hab : a.looseEq b = true) (hbc : b.looseEq c = true) :
    a.looseEq c = true ↔ ¬ Clash a c := by
  -- The middle value says what the others can be: only lists go down to other values.
  match b with
  | .float y => exact looseEq_trans_float hab hbc
  | .int j =>
      cases a with
      | null | bool | string | list => cases hab
      | float x =>
          cases c with
          | null | bool | string | list => cases hbc
          | int k =>
              obtain rfl := beq_iff_eq.mp hbc
              exact iff_of_true hab fun h => nomatch h
          | float z => exact iff_of_true (numEq_trans (numEq_comm.mp hab) hbc) fun h => nomatch h
      | int i =>
          obtain rfl := beq_iff_eq.mp hab
          refine iff_of_true hbc ?_
          rintro (hne | _)
          exact hne (beq_iff_eq.mp hbc)
  | .null =>
      cases a <;> cases hab
      cases c <;> cases hbc
      exact iff_of_true rfl fun h => nomatch h
  | .bool q =>
      cases a with
      | bool p =>
          obtain rfl := beq_iff_eq.mp hab
          exact iff_of_true hbc fun h => nomatch h
      | null | int | float | string | list => cases hab
  | .string t =>
      cases a with
      | string s =>
          obtain rfl := beq_iff_eq.mp hab
          exact iff_of_true hbc fun h => nomatch h
      | null | bool | int | float | list => cases hab
  | .list bs =>
      cases a with
      | list as =>
          cases c with
          | list cs =>
              rw [clash_list_iff]
              exact looseEqItems_trans_iff hab hbc
          | null | bool | int | float | string => cases hbc
      | null | bool | int | float | string => cases hab

theorem looseEqItems_trans_iff {as bs cs : List Value} (hab : looseEqItems as bs = true)
    (hbc : looseEqItems bs cs = true) : looseEqItems as cs = true ↔ ¬ ItemsClash as cs := by
  match as, bs, cs with
  | [], [], [] => exact iff_of_true rfl fun ⟨_, _, _, h, _⟩ => nomatch h
  | a :: as, b :: bs, c :: cs =>
      simp only [looseEqItems, Bool.and_eq_true] at hab hbc ⊢
      rw [itemsClash_cons_iff, not_or, looseEq_trans_iff hab.1 hbc.1,
        looseEqItems_trans_iff hab.2 hbc.2]

end

/-! ## Integers and doubles -/

theorem int_looseEq_float_iff {i : Int64} {x : Double} :
    (int i).looseEq (float x) = true ↔ x.IsNearest i.toInt :=
  numEq_ofInt_iff (natAbs_toInt_le i)

theorem float_looseEq_int_iff {i : Int64} {x : Double} :
    (float x).looseEq (int i) = true ↔ x.IsNearest i.toInt :=
  numEq_ofInt_iff (natAbs_toInt_le i)

theorem int_looseEq_float_of_fits {i : Int64} (hfits : FitsSignificand i.toInt) {x : Double}
    (hx : x.isFinite = true) :
    (int i).looseEq (float x) = true ↔ x.scaled = i.toInt * unitsInOne := by
  obtain ⟨k, hk, hdvd⟩ := hfits
  have hi := natAbs_toInt_le i
  rw [int_looseEq_float_iff, isNearest_iff hi, scaled_ofInt_of_dvd hi hk hdvd]
  simp [hx]

/-- An integer and a double are equal if and only if the double is the nearest one to
the integer, which it is where they are the same number; where they are not equal
they are in the order of the two numbers. For the integers that are themselves
doubles, and only for these, equality is exact, and so is then the order; all integers
up to `2 ^ 53` are such. Two equalities in a chain give the third unless the ends
clash. -/
theorem widened_comparison :
    (∀ (i : Int64) (x : Double),
      ((int i).looseEq (float x) = true ↔ x.IsNearest i.toInt) ∧
      ((float x).looseEq (int i) = true ↔ x.IsNearest i.toInt) ∧
      (x.isFinite = true →
        (x.scaled = i.toInt * unitsInOne → x.IsNearest i.toInt) ∧
        ∃ o, (int i).order (float x) = some o ∧ (float x).order (int i) = some o.swap ∧
          Stands i.toInt x o)) ∧
    (∀ i : Int64, FitsSignificand i.toInt ↔
      ∀ x : Double, x.isFinite = true →
        ((int i).looseEq (float x) = true ↔ x.scaled = i.toInt * unitsInOne)) ∧
    (∀ i : Int64, FitsSignificand i.toInt → ∀ x : Double, x.isFinite = true →
      (int i).order (float x) = some (compare (i.toInt * unitsInOne) x.scaled) ∧
      (float x).order (int i) = some (compare x.scaled (i.toInt * unitsInOne))) ∧
    (∀ i : Int64, i.toInt.natAbs ≤ 0x20000000000000 → FitsSignificand i.toInt) ∧
    ∀ a b c : Value, a.looseEq b = true → b.looseEq c = true →
      (a.looseEq c = true ↔ ¬ Clash a c) := by
  refine ⟨fun i x => ⟨int_looseEq_float_iff, float_looseEq_int_iff, fun hx => ⟨?_, ?_⟩⟩,
    fun i => ⟨fun hfits x => int_looseEq_float_of_fits hfits, fun hexact => ?_⟩,
    fun i hfits x hx => ?_, fun i => fitsSignificand_of_natAbs_le,
    fun a b c => looseEq_trans_iff⟩
  · exact isNearest_of_scaled_eq hx
  · obtain ⟨o, horder, hstands⟩ := order_ofInt (natAbs_toInt_le i) hx
    have hswap := order_swap (int i) (float x)
    have horder' : (int i).order (float x) = some o := horder
    rw [horder', Option.map_some] at hswap
    exact ⟨o, horder', hswap, hstands⟩
  · have hround := isNearest_ofInt (natAbs_toInt_le i)
    exact fitsSignificand_of_scaled_eq
      ((hexact _ hround.isFinite).mp (int_looseEq_float_iff.mpr hround))
  · have horder : (int i).order (float x) = _ := order_ofInt_of_fits (natAbs_toInt_le i) hfits hx
    have hswap := order_swap (int i) (float x)
    rw [horder, Option.map_some, ← Std.OrientedCmp.eq_swap] at hswap
    exact ⟨horder, hswap⟩

/-- `2 ^ 53` as a double, from which on not every integer is one. -/
def border : Double := ⟨false, 0x4340000000000000⟩

/-- The border itself is compared exactly, and it clashes with its successor, inside
lists as well. -/
theorem widened_comparison_border :
    FitsSignificand 0x20000000000000 ∧ Stands 0x20000000000000 border .eq ∧
      (int 0x20000000000000).order (float border) = some .eq ∧
      Clash (list [int 0x20000000000000]) (list [int 0x20000000000001]) := by
  have hfinite : border.isFinite = true := by decide +kernel
  obtain ⟨hmixed, -, hexact, hsmall, htrans⟩ := widened_comparison
  have hfits : FitsSignificand 0x20000000000000 := hsmall 0x20000000000000 (by decide)
  have horder := (hexact 0x20000000000000 hfits border hfinite).1
  have heq : some (compare ((0x20000000000000 : Int64).toInt * unitsInOne) border.scaled) =
      some .eq := by decide +kernel
  refine ⟨hfits, ?_, horder.trans heq, ?_⟩
  · obtain ⟨-, -, hfinitely⟩ := hmixed 0x20000000000000 border
    exact .nearest ((hfinitely hfinite).1 (by decide +kernel))
  · by_contra hclash
    have hab : (list [int 0x20000000000000]).looseEq (list [float border]) = true := by
      decide +kernel
    have hbc : (list [float border]).looseEq (list [int 0x20000000000001]) = true := by
      decide +kernel
    have hac := (htrans _ _ _ hab hbc).mpr hclash
    revert hac
    decide +kernel

/-- The successor of the border equals it as a double, in both ways of comparing, and is
a different number; and it is not equal to the integer that equals the border as well. -/
theorem widened_comparison_inexact :
    border.isFinite = true ∧ border.scaled ≠ (0x20000000000001 : Int) * unitsInOne ∧
      (int 0x20000000000001).looseEq (float border) = true ∧
      (float border).looseEq (int 0x20000000000001) = true ∧
      (int 0x20000000000001).order (float border) = some .eq ∧
      (int 0x20000000000000).looseEq (float border) = true ∧
      (int 0x20000000000000).looseEq (int 0x20000000000001) = false := by
  decide +kernel

end Value

end StartStep
