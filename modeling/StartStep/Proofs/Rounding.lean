import Mathlib.Order.Monotone.Basic
import StartStep.Double.Rounding

/-!
# Integers fall to the nearest double

The finite doubles of one sign are a grid on the line: their magnitudes are the
numbers `0, 1, 2, …` without a gap, and `units` says how far each is from zero.
The steps of the grid grow with the binades, but `units` is strictly increasing
across every border of them, and this is all that is used of its shape.

Rounding is described once, by `nearest_spec`: every number of units lies between two
neighbours of the grid, and it falls to the nearer one, or in the middle to the
even one. What rounding is good for follows from there with no further look
at significands and exponents: it leaves the grid alone (`nearest_units`), it
keeps the order (`nearest_mono`), nothing on the grid is nearer (`nearest_le`), and a
tie has one even side (`nearest_tie`).

Signs come in only then. `IsNearest` says which double an integer falls to without
saying how it is computed, and `isNearest_iff` that the conversion of integers
computes it. Two zeros have one value, so that the double is determined as a number
and not as a word. The conversion is bounded to integers of 64 bits because far
beyond them the nearest magnitude would be an infinite one.
-/

namespace StartStep.Double

/-! ## The finite doubles in their order -/

/-- How many smallest units the finite doubles of a magnitude are away from zero. -/
def units (m : Nat) : Nat := (m - (m / binade - 1) * binade) <<< (m / binade - 1)

theorem units_eq {p q : Nat} (hq : q ≤ 2 * binade) (hp : p = 0 ∨ binade ≤ q) :
    units (p * binade + q) = q <<< p := by
  have hb : binade = 0x10000000000000 := rfl
  rcases Nat.lt_or_eq_of_le hq with hlt | rfl
  · have hexponent : (p * binade + q) / binade - 1 = p := by
      rw [hb] at hlt hp ⊢
      omega
    rw [units, hexponent, Nat.add_sub_cancel_left]
  · have hexponent : (p * binade + 2 * binade) / binade - 1 = p + 1 := by
      rw [hb]
      omega
    have hsignificand : p * binade + 2 * binade - (p + 1) * binade = binade := by
      rw [hb]
      omega
    rw [units, hexponent, hsignificand, Nat.shiftLeft_succ_inside]

theorem exists_eq_add (m : Nat) :
    ∃ p q, m = p * binade + q ∧ q < 2 * binade ∧ (p = 0 ∨ binade ≤ q) := by
  have hb : binade = 0x10000000000000 := rfl
  refine ⟨m / binade - 1, m - (m / binade - 1) * binade, ?_⟩
  rw [hb]
  omega

theorem units_succ {p q : Nat} (hq : q < 2 * binade) (hp : p = 0 ∨ binade ≤ q) :
    units (p * binade + q + 1) = units (p * binade + q) + 1 <<< p := by
  have hp' : p = 0 ∨ binade ≤ q + 1 := by omega
  rw [Nat.add_assoc, units_eq hq hp', units_eq (by omega) hp]
  rw [Nat.shiftLeft_eq, Nat.shiftLeft_eq, Nat.shiftLeft_eq, Nat.succ_mul, Nat.one_mul]

theorem units_strictMono : StrictMono units := by
  refine strictMono_nat_of_lt_succ fun m => ?_
  obtain ⟨p, q, rfl, hq, hp⟩ := exists_eq_add m
  have := Nat.two_pow_pos p
  rw [units_succ hq hp, Nat.shiftLeft_eq]
  omega

theorem units_zero : units 0 = 0 := rfl

/-! ## Rounding -/

/-- A number of units has a whole quotient by the unit chosen for it that is a significand. -/
theorem unitFor_spec (a : Nat) :
    a / 1 <<< unitFor a 1 < 2 * binade ∧ (unitFor a 1 = 0 ∨ binade ≤ a / 1 <<< unitFor a 1) := by
  have hb : binade = 2 ^ 52 := rfl
  have hb' : 2 * binade = 2 ^ 53 := rfl
  rw [hb', hb, unitFor, Nat.div_one, Nat.shiftLeft_eq, Nat.one_mul]
  constructor
  · have hlog := @Nat.lt_log2_self a
    have hle : 2 ^ (a.log2 + 1) ≤ 2 ^ (53 + (a.log2 - 52)) :=
      Nat.pow_le_pow_right (by decide) (by omega)
    rw [Nat.div_lt_iff_lt_mul (Nat.two_pow_pos _), ← Nat.pow_add]
    omega
  · by_cases h : a.log2 ≤ 52
    · left
      omega
    · right
      have ha : a ≠ 0 := by
        rintro rfl
        simp at h
      have hlog := Nat.log2_self_le ha
      have hexponent : 52 + (a.log2 - 52) = a.log2 := by omega
      rw [Nat.le_div_iff_mul_le (Nat.two_pow_pos _), ← Nat.pow_add, hexponent]
      exact hlog

/-- The magnitude nearest to a number of units, the infinite ones going on as if
they were finite. -/
def nearest (a : Nat) : Nat := unitFor a 1 * binade + nearestQuotient a (1 <<< unitFor a 1)

theorem nearest_spec (a : Nat) : ∃ m, units m ≤ a ∧ a < units (m + 1) ∧
    units (m + 1) = units m + 1 <<< unitFor a 1 ∧
    (nearest a = m ∧ (2 * a < units m + units (m + 1) ∨
      2 * a = units m + units (m + 1) ∧ m % 2 = 0) ∨
    nearest a = m + 1 ∧ (units m + units (m + 1) < 2 * a ∨
      2 * a = units m + units (m + 1) ∧ m % 2 = 1)) := by
  obtain ⟨hq, hp⟩ := unitFor_spec a
  have hunits := units_eq (Nat.le_of_lt hq) hp
  have hnext := units_succ hq hp
  have hone : 0 < 1 <<< unitFor a 1 := Nat.one_shiftLeft _ ▸ Nat.two_pow_pos _
  have hdiv := Nat.div_add_mod a (1 <<< unitFor a 1)
  have hmod := Nat.mod_lt a hone
  have heven : (unitFor a 1 * binade + a / 1 <<< unitFor a 1) % 2 =
      a / 1 <<< unitFor a 1 % 2 := by
    have hb : binade = 0x10000000000000 := rfl
    rw [hb]
    omega
  -- The whole quotient is the significand of the neighbour below.
  have hmul : (a / 1 <<< unitFor a 1) <<< unitFor a 1 =
      1 <<< unitFor a 1 * (a / 1 <<< unitFor a 1) := by
    rw [Nat.shiftLeft_eq, Nat.shiftLeft_eq 1, Nat.one_mul, Nat.mul_comm]
  rw [hmul] at hunits
  refine ⟨unitFor a 1 * binade + a / 1 <<< unitFor a 1, by omega, by omega, hnext, ?_⟩
  rw [heven, hnext, hunits]
  unfold nearest nearestQuotient
  dsimp only
  split
  · omega
  · split <;> omega

/-- A whole number of the units chosen for it is on the grid. -/
theorem units_nearest_of_dvd {a : Nat} (h : 1 <<< unitFor a 1 ∣ a) : units (nearest a) = a := by
  obtain ⟨hq, hp⟩ := unitFor_spec a
  have hquotient : nearestQuotient a (1 <<< unitFor a 1) = a / 1 <<< unitFor a 1 := by
    have hone : 0 < 1 <<< unitFor a 1 := Nat.one_shiftLeft _ ▸ Nat.two_pow_pos _
    unfold nearestQuotient
    rw [Nat.mod_eq_zero_of_dvd h, if_pos (by omega)]
  rw [nearest, hquotient, units_eq (Nat.le_of_lt hq) hp, Nat.shiftLeft_eq, ← Nat.one_shiftLeft]
  exact Nat.div_mul_cancel h

theorem nearest_units (m : Nat) : nearest (units m) = m := by
  obtain ⟨k, hlow, hhigh, -, h⟩ := nearest_spec (units m)
  have hle : k ≤ m := units_strictMono.le_iff_le.mp hlow
  have hlt : m < k + 1 := units_strictMono.lt_iff_lt.mp hhigh
  obtain rfl : k = m := by omega
  omega

theorem nearest_mono {a b : Nat} (h : a ≤ b) : nearest a ≤ nearest b := by
  obtain ⟨m, hlow, hhigh, -, hm⟩ := nearest_spec a
  obtain ⟨k, hlow', hhigh', -, hk⟩ := nearest_spec b
  have hlt : m < k + 1 := units_strictMono.lt_iff_lt.mp (by omega)
  rcases Nat.lt_or_eq_of_le (Nat.lt_succ_iff.mp hlt) with hmk | rfl
  · omega
  · omega

theorem nearest_le (a k : Nat) :
    ((units (nearest a) : Int) - a).natAbs ≤ ((units k : Int) - a).natAbs := by
  obtain ⟨m, hlow, hhigh, -, hm⟩ := nearest_spec a
  have hside : units k ≤ units m ∨ units (m + 1) ≤ units k := by
    rw [units_strictMono.le_iff_le, units_strictMono.le_iff_le]
    omega
  rcases hm with ⟨hm, _⟩ | ⟨hm, _⟩ <;> rw [hm] <;> omega

theorem nearest_tie {a k : Nat} (hk : k ≠ nearest a)
    (h : ((units k : Int) - a).natAbs = ((units (nearest a) : Int) - a).natAbs) :
    nearest a % 2 = 0 ∧ k % 2 = 1 := by
  obtain ⟨m, hlow, hhigh, -, hm⟩ := nearest_spec a
  have hside : units k < units m ∨ k = m ∨ k = m + 1 ∨ units (m + 1) < units k := by
    rw [units_strictMono.lt_iff_lt, units_strictMono.lt_iff_lt]
    omega
  rcases hm with ⟨hm, _⟩ | ⟨hm, _⟩ <;> rw [hm] at hk h ⊢ <;>
    rcases hside with hside | rfl | rfl | hside <;> omega

/-! ## Signs -/

theorem scaledMagnitude_eq (x : Double) : x.scaledMagnitude = units x.magnitude.val := rfl

theorem scaled_lt_iff {x y : Double} : x.scaled < y.scaled ↔ x.rank < y.rank := by
  have hlt := units_strictMono.lt_iff_lt (a := x.magnitude.val) (b := y.magnitude.val)
  have hgt := units_strictMono.lt_iff_lt (a := y.magnitude.val) (b := x.magnitude.val)
  have hx := units_strictMono.lt_iff_lt (a := 0) (b := x.magnitude.val)
  have hy := units_strictMono.lt_iff_lt (a := 0) (b := y.magnitude.val)
  rw [units_zero] at hx hy
  simp only [scaled, rank, scaledMagnitude_eq]
  cases x.negative <;> cases y.negative <;> simp only [if_true, Bool.false_eq_true, if_false] <;>
    omega

theorem scaled_inj_iff {x y : Double} : x.scaled = y.scaled ↔ x.rank = y.rank := by
  have hlt := @scaled_lt_iff x y
  have hgt := @scaled_lt_iff y x
  omega

theorem isNaN_of_isFinite {x : Double} (h : x.isFinite = true) : x.isNaN = false := by
  unfold isFinite at h
  unfold isNaN
  simp only [decide_eq_true_eq, decide_eq_false_iff_not] at h ⊢
  omega

/-- Two finite doubles are in the order of their values. -/
theorem order_of_isFinite {x y : Double} (hx : x.isFinite = true) (hy : y.isFinite = true) :
    x.order y = some (compare x.scaled y.scaled) := by
  have hcompare : compare x.rank y.rank = compare x.scaled y.scaled := by
    rcases Int.lt_trichotomy x.rank y.rank with h | h | h
    · rw [Std.compare_eq_lt.mpr h, Std.compare_eq_lt.mpr (scaled_lt_iff.mpr h)]
    · rw [Std.compare_eq_iff_eq.mpr h, Std.compare_eq_iff_eq.mpr (scaled_inj_iff.mpr h)]
    · rw [Std.compare_eq_gt.mpr h, Std.compare_eq_gt.mpr (scaled_lt_iff.mpr h)]
  unfold order
  rw [isNaN_of_isFinite hx, isNaN_of_isFinite hy, hcompare]
  rfl

/-! ## Integers -/

/-- How many smallest units there are in one. -/
def unitsInOne : Nat := 1 <<< 1074

/-- How many smallest units a finite double is away from an integer. -/
def distance (x : Double) (i : Int) : Nat := (x.scaled - i * unitsInOne).natAbs

/-- A double is nearest to an integer: no finite one is nearer, and where another
is as near its significand is even. -/
structure IsNearest (x : Double) (i : Int) : Prop where
  isFinite : x.isFinite = true
  distance_le : ∀ y : Double, y.isFinite = true → x.distance i ≤ y.distance i
  even_of_tie : ∀ y : Double, y.isFinite = true → y.distance i = x.distance i →
    y.scaled ≠ x.scaled → x.significand % 2 = 0

/-- A double that is an integer is nearest to it. -/
theorem isNearest_of_scaled_eq {i : Int} {x : Double} (hx : x.isFinite = true)
    (h : x.scaled = i * unitsInOne) : x.IsNearest i where
  isFinite := hx
  distance_le y _ := by
    rw [distance, h]
    omega
  even_of_tie y _ htie hne := by
    rw [distance, distance, h] at htie
    omega

/-- On the way from an integer to its nearest double no other double is passed. -/
theorem IsNearest.lt_iff {i : Int} {x y : Double} (hx : x.IsNearest i) (hy : y.isFinite = true) :
    (x.scaled < y.scaled ↔ i * unitsInOne < y.scaled ∧ x.scaled ≠ y.scaled) ∧
      (y.scaled < x.scaled ↔ y.scaled < i * unitsInOne ∧ x.scaled ≠ y.scaled) := by
  have hle := hx.distance_le y hy
  unfold distance at hle
  omega

theorem significand_mod_two (x : Double) : x.significand % 2 = x.magnitude.val % 2 := by
  have hb : binade = 0x10000000000000 := rfl
  rw [significand, unitExponent, hb]
  omega

theorem significand_mod_two_congr {x y : Double} (h : x.scaled = y.scaled) :
    x.significand % 2 = y.significand % 2 := by
  have hmagnitude : x.magnitude.val = y.magnitude.val := by
    have hrank := scaled_inj_iff.mp h
    unfold rank at hrank
    split at hrank <;> split at hrank <;> omega
  rw [significand_mod_two, significand_mod_two, hmagnitude]

theorem natAbs_mul_unitsInOne (i : Int) : (i * unitsInOne).natAbs = i.natAbs <<< 1074 := by
  have hshift : ∀ n k : Nat, n * 1 <<< k = n <<< k := by
    intro n k
    rw [Nat.shiftLeft_eq, Nat.shiftLeft_eq, Nat.one_mul]
  rw [Int.natAbs_mul, Int.natAbs_natCast]
  exact hshift _ _

theorem mul_unitsInOne_neg_iff (i : Int) : i * unitsInOne < 0 ↔ i < 0 := by
  have hpos : (0 : Int) < unitsInOne := by decide
  constructor
  · intro h
    by_contra hi
    have := Int.mul_nonneg (Int.not_lt.mp hi) (Int.le_of_lt hpos)
    omega
  · exact fun h => Int.mul_neg_of_neg_of_pos h hpos

/-- Leaving the signs away does not bring a double further from an integer. -/
theorem le_distance (x : Double) (i : Int) :
    ((units x.magnitude.val : Int) - (i * unitsInOne).natAbs).natAbs ≤ x.distance i := by
  rw [distance, scaled, scaledMagnitude_eq]
  split <;> omega

/-! ### The conversion of integers -/

section Conversion

variable {i : Int} (hi : i.natAbs ≤ 0x10000000000000000)
include hi

theorem magnitude_ofInt :
    (ofInt i).magnitude.val = nearest (i.natAbs <<< 1074) ∧ (ofInt i).isFinite = true := by
  have hbound : nearest (i.natAbs <<< 1074) ≤ 1086 * binade + binade := by
    have hshift : i.natAbs <<< 1074 ≤ units (1086 * binade + binade) := by
      rw [units_eq (by decide) (.inr (Nat.le_refl _))]
      have hpow : ∀ k : Nat, i.natAbs <<< k ≤ binade <<< (k + 12) := by
        intro k
        rw [Nat.add_comm, Nat.shiftLeft_add]
        simp only [Nat.shiftLeft_eq _ k]
        exact Nat.mul_le_mul_right _ hi
      exact hpow 1074
    have hmono := nearest_mono hshift
    rwa [nearest_units] at hmono
  have hlt : 1086 * binade + binade < infinityMagnitude := by decide
  have hmagnitude : (ofInt i).magnitude.val = nearest (i.natAbs <<< 1074) :=
    Nat.min_eq_left (show nearest (i.natAbs <<< 1074) ≤ infinityMagnitude by omega)
  refine ⟨hmagnitude, ?_⟩
  unfold isFinite
  rw [hmagnitude]
  exact decide_eq_true (by omega)

theorem scaled_ofInt :
    (ofInt i).scaled = if i * unitsInOne < 0 then -(units (nearest (i * unitsInOne).natAbs) : Int)
      else units (nearest (i * unitsInOne).natAbs) := by
  have hnegative : (ofInt i).negative = decide (i < 0) := rfl
  rw [scaled, scaledMagnitude_eq, (magnitude_ofInt hi).1, natAbs_mul_unitsInOne, hnegative]
  simp only [decide_eq_true_eq, mul_unitsInOne_neg_iff]

theorem distance_ofInt :
    (ofInt i).distance i =
      ((units (nearest (i * unitsInOne).natAbs) : Int) - (i * unitsInOne).natAbs).natAbs := by
  rw [distance, scaled_ofInt hi]
  split <;> omega

/-- Where another double is as near to an integer as the rounded one, the rounded one
has the even significand and the other one the odd. -/
theorem parity_of_tie {x : Double} (htie : x.distance i = (ofInt i).distance i)
    (hne : x.scaled ≠ (ofInt i).scaled) :
    (ofInt i).significand % 2 = 0 ∧ x.significand % 2 = 1 := by
  have hle := le_distance x i
  have hnearest := nearest_le (i * unitsInOne).natAbs x.magnitude.val
  rw [htie, distance_ofInt hi] at hle
  have hk : x.magnitude.val ≠ nearest (i * unitsInOne).natAbs := by
    -- With the same magnitude it would differ in its sign, and then both are zero.
    intro hk
    have hzero := nearest_le (i * unitsInOne).natAbs 0
    rw [distance_ofInt hi, distance, scaled, scaledMagnitude_eq, hk] at htie
    rw [scaled_ofInt hi, scaled, scaledMagnitude_eq, hk] at hne
    rw [units_zero] at hzero
    by_cases hx : x.negative = true
    · rw [if_pos hx] at htie hne
      split at hne <;> omega
    · rw [if_neg hx] at htie hne
      split at hne <;> omega
  rw [significand_mod_two, significand_mod_two, (magnitude_ofInt hi).1, ← natAbs_mul_unitsInOne]
  exact nearest_tie hk (by omega)

/-- Integers are rounded to the nearest double. -/
theorem isNearest_ofInt : (ofInt i).IsNearest i where
  isFinite := (magnitude_ofInt hi).2
  distance_le y _ := by
    rw [distance_ofInt hi]
    exact Nat.le_trans (nearest_le _ _) (le_distance y i)
  even_of_tie _ _ htie hne := (parity_of_tie hi htie hne).1

theorem isNearest_iff {x : Double} :
    x.IsNearest i ↔ x.isFinite = true ∧ x.scaled = (ofInt i).scaled := by
  have hround := isNearest_ofInt hi
  constructor
  · intro hx
    refine ⟨hx.isFinite, ?_⟩
    by_contra hne
    have htie : x.distance i = (ofInt i).distance i :=
      Nat.le_antisymm (hx.distance_le _ hround.isFinite) (hround.distance_le _ hx.isFinite)
    have heven := hx.even_of_tie _ hround.isFinite htie.symm (Ne.symm hne)
    have hodd := (parity_of_tie hi htie hne).2
    omega
  · rintro ⟨hfinite, hscaled⟩
    have hdistance : x.distance i = (ofInt i).distance i := by
      rw [distance, distance, hscaled]
    refine ⟨hfinite, ?_, ?_⟩
    · intro y hy
      rw [hdistance]
      exact hround.distance_le y hy
    · intro y hy htie hne
      rw [significand_mod_two_congr hscaled]
      rw [hdistance] at htie
      rw [hscaled] at hne
      exact hround.even_of_tie y hy htie hne

theorem scaled_ofInt_mono {j : Int} (hj : j.natAbs ≤ 0x10000000000000000) (h : i ≤ j) :
    (ofInt i).scaled ≤ (ofInt j).scaled := by
  have hmul : i * unitsInOne ≤ j * unitsInOne :=
    Int.mul_le_mul_of_nonneg_right h (Int.natCast_nonneg _)
  have hunits : ∀ a b : Nat, a ≤ b → units (nearest a) ≤ units (nearest b) :=
    fun a b hab => units_strictMono.monotone (nearest_mono hab)
  have hup := hunits (i * unitsInOne).natAbs (j * unitsInOne).natAbs
  have hdown := hunits (j * unitsInOne).natAbs (i * unitsInOne).natAbs
  rw [scaled_ofInt hi, scaled_ofInt hj]
  split <;> split <;> omega

end Conversion

/-! ### How far an integer is moved -/

section Digits

variable {i : Int} {k : Nat}

theorem unit_ofInt_dvd (hk : i.natAbs < 1 <<< (53 + k)) :
    1 <<< unitFor (i * unitsInOne).natAbs 1 ∣ 1 <<< k * unitsInOne := by
  have hexponent : ∀ n : Nat, unitFor (i.natAbs <<< n) 1 ≤ k + n := by
    intro n
    have hlt : i.natAbs <<< n < 2 ^ (53 + k + n) := by
      rw [Nat.shiftLeft_eq, Nat.pow_add, ← Nat.one_shiftLeft (53 + k)]
      exact Nat.mul_lt_mul_of_pos_right hk (Nat.two_pow_pos n)
    rw [unitFor, Nat.div_one]
    by_cases hzero : i.natAbs <<< n = 0
    · rw [hzero]
      simp
    · have := (Nat.log2_lt hzero).mpr hlt
      omega
  have hsplit : ∀ n : Nat, 1 <<< k * 1 <<< n = 1 <<< (k + n) := by
    intro n
    rw [Nat.shiftLeft_add, Nat.one_shiftLeft n, Nat.shiftLeft_eq (1 <<< k)]
  rw [natAbs_mul_unitsInOne, unitsInOne, hsplit]
  simp only [Nat.one_shiftLeft]
  exact Nat.pow_dvd_pow 2 (hexponent _)

variable (hi : i.natAbs ≤ 0x10000000000000000) (hk : i.natAbs < 1 <<< (53 + k))
include hi hk

/-- An integer of `53 + k` binary digits is moved by at most half of `2 ^ k`. -/
theorem distance_ofInt_le : 2 * (ofInt i).distance i ≤ 1 <<< k * unitsInOne := by
  have hpos : 0 < 1 <<< k * unitsInOne := by
    rw [Nat.one_shiftLeft]
    exact Nat.mul_pos (Nat.two_pow_pos k) (by decide)
  have hunit := Nat.le_of_dvd hpos (unit_ofInt_dvd hk)
  obtain ⟨m, hlow, hhigh, hgap, hm⟩ := nearest_spec (i * unitsInOne).natAbs
  rw [distance_ofInt hi]
  rcases hm with ⟨hm, _⟩ | ⟨hm, _⟩ <;> rw [hm] <;> omega

/-- It is not moved at all if the last `k` of them are zeros. -/
theorem scaled_ofInt_of_dvd (hdvd : 1 <<< k ∣ i.natAbs) : (ofInt i).scaled = i * unitsInOne := by
  have hwhole : 1 <<< unitFor (i * unitsInOne).natAbs 1 ∣ (i * unitsInOne).natAbs := by
    refine Nat.dvd_trans (unit_ofInt_dvd hk) ?_
    rw [Int.natAbs_mul, Int.natAbs_natCast]
    exact Nat.mul_dvd_mul_right hdvd _
  have hunits := units_nearest_of_dvd hwhole
  rw [scaled_ofInt hi, hunits]
  split <;> omega

end Digits

/-! ### Integers that fall to one double -/

/-- A double is nearest to both integers. -/
def Coincide (i j : Int) : Prop := ∃ x : Double, x.IsNearest i ∧ x.IsNearest j

theorem Coincide.symm {i j : Int} (h : Coincide i j) : Coincide j i := by
  obtain ⟨x, hi, hj⟩ := h
  exact ⟨x, hj, hi⟩

section Coincidence

variable {i j : Int} (hi : i.natAbs ≤ 0x10000000000000000) (hj : j.natAbs ≤ 0x10000000000000000)
include hi hj

theorem coincide_iff : Coincide i j ↔ (ofInt i).scaled = (ofInt j).scaled := by
  constructor
  · rintro ⟨x, hx, hx'⟩
    exact ((isNearest_iff hi).mp hx).2.symm.trans ((isNearest_iff hj).mp hx').2
  · intro h
    have hround := isNearest_ofInt hi
    exact ⟨ofInt i, hround, (isNearest_iff hj).mpr ⟨hround.isFinite, h⟩⟩

/-- Integers of `53 + k` binary digits that fall to one double are at most `2 ^ k` apart. -/
theorem Coincide.natAbs_sub_le (h : Coincide i j) {k : Nat} (hik : i.natAbs < 1 <<< (53 + k))
    (hjk : j.natAbs < 1 <<< (53 + k)) : (i - j).natAbs ≤ 1 <<< k := by
  have hscaled := (coincide_iff hi hj).mp h
  have hidistance := distance_ofInt_le hi hik
  have hjdistance := distance_ofInt_le hj hjk
  rw [distance] at hidistance hjdistance
  have hmul : (i - j).natAbs * unitsInOne ≤ 1 <<< k * unitsInOne := by
    have hsub : (i - j).natAbs * unitsInOne = (i * unitsInOne - j * unitsInOne).natAbs := by
      rw [← Int.sub_mul, Int.natAbs_mul, Int.natAbs_natCast]
    rw [hsub]
    omega
  exact Nat.le_of_mul_le_mul_right hmul (by decide)

end Coincidence

/-- No other integer falls to zero. -/
theorem eq_zero_of_coincide {i : Int} (hi : i.natAbs ≤ 0x10000000000000000)
    (h : Coincide i 0) : i = 0 := by
  have hscaled : (ofInt i).scaled = (ofInt 0).scaled := (coincide_iff hi (by decide)).mp h
  have hzero : (ofInt (-1)).scaled < (ofInt 0).scaled ∧ (ofInt 0).scaled < (ofInt 1).scaled := by
    decide +kernel
  rcases Int.lt_trichotomy i 0 with hlt | heq | hlt
  · have := scaled_ofInt_mono (j := -1) hi (by decide) (by omega)
    omega
  · exact heq
  · have := scaled_ofInt_mono (i := 1) (by decide) hi (by omega)
    omega

end StartStep.Double
