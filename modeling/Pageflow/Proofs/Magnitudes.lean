/-
  Pageflow.Proofs.Magnitudes — the numbers that doubles stand for.

  A finite double is a natural number of units of `2^-1074`, with a sign.  The number of units
  grows with the pattern, so the total order of patterns is the order of the numbers, but for one
  thing: the negative zero lies below the positive one, and they are the same number.

  Main definitions: `unitsOf` and `Binary64.value`.
  Main statements: `value_le_of_totalLe`, `totalLe_of_value_eq` and `value_ofInt`.
-/
import Mathlib.Algebra.Order.Field.Rat
import Mathlib.Order.Monotone.Basic
import Mathlib.Tactic.FieldSimp
import Mathlib.Tactic.NormNum
import Mathlib.Tactic.Ring
import Pageflow.Decimal.Binary64

namespace Pageflow

namespace Binary64

/-! ## §1. Units. -/

/-- How many units of `2^-1074` there are in one. -/
def unitsInOne : Nat := 2 ^ 1074

theorem unitsInOne_pos : 0 < unitsInOne := by
  unfold unitsInOne
  positivity

/-- How many units these sixty-three magnitude bits stand for. -/
def unitsOf (magnitude : Nat) : Nat :=
  if magnitude / 2 ^ 52 = 0 then magnitude
  else (2 ^ 52 + magnitude % 2 ^ 52) * 2 ^ (magnitude / 2 ^ 52 - 1)

@[simp] theorem unitsOf_zero : unitsOf 0 = 0 := rfl

/-- A pattern with a hidden bit. -/
theorem unitsOf_normal {e f : Nat} (hf : f < 2 ^ 52) :
    unitsOf ((e + 1) * 2 ^ 52 + f) = (2 ^ 52 + f) * 2 ^ e := by
  have exponent : ((e + 1) * 2 ^ 52 + f) / 2 ^ 52 = e + 1 := by omega
  have fraction : ((e + 1) * 2 ^ 52 + f) % 2 ^ 52 = f := by omega
  rw [unitsOf, exponent, fraction, if_neg (Nat.succ_ne_zero e), Nat.add_sub_cancel]

/-- Of two neighbours the second one stands for more. -/
theorem unitsOf_lt_succ (m : Nat) : unitsOf m < unitsOf (m + 1) := by
  by_cases small : m < 2 ^ 52
  · have first : unitsOf m = m := if_pos (by omega)
    rcases Nat.lt_or_ge (m + 1) (2 ^ 52) with h | h
    · have second : unitsOf (m + 1) = m + 1 := if_pos (by omega)
      omega
    · obtain rfl : m = 2 ^ 52 - 1 := by omega
      decide
  · obtain ⟨e, f, hf, rfl⟩ : ∃ e f, f < 2 ^ 52 ∧ m = (e + 1) * 2 ^ 52 + f :=
      ⟨m / 2 ^ 52 - 1, m % 2 ^ 52, Nat.mod_lt _ (by decide), by omega⟩
    have positive : 0 < 2 ^ e := Nat.pow_pos (by decide)
    rw [unitsOf_normal hf]
    rcases Nat.lt_or_ge (f + 1) (2 ^ 52) with h | h
    · rw [Nat.add_assoc, unitsOf_normal h]
      exact Nat.mul_lt_mul_of_pos_right (by omega) positive
    · -- the fraction runs over into the exponent
      have carry : (e + 1) * 2 ^ 52 + f + 1 = (e + 1 + 1) * 2 ^ 52 + 0 := by omega
      rw [carry, unitsOf_normal (by decide), Nat.pow_succ]
      have : (2 ^ 52 + f) * 2 ^ e < (2 ^ 52 * 2) * 2 ^ e :=
        Nat.mul_lt_mul_of_pos_right (by omega) positive
      calc (2 ^ 52 + f) * 2 ^ e < (2 ^ 52 * 2) * 2 ^ e := this
        _ = (2 ^ 52 + 0) * (2 ^ e * 2) := by ring

theorem unitsOf_strictMono : StrictMono unitsOf := strictMono_nat_of_lt_succ unitsOf_lt_succ

/-! ## §2. Values. -/

/-- The bits without the sign. -/
def magnitude (x : Binary64) : Nat := x.bits.toNat % 2 ^ 63

/-- The number that a finite double stands for. -/
def value (x : Binary64) : ℚ :=
  (if x.isNegative then -1 else 1) * x.significand * (2 : ℚ) ^ x.scale

/-- How many units the double stands for, with its sign. -/
def units (x : Binary64) : Int :=
  if x.isNegative then -(unitsOf x.magnitude : Int) else unitsOf x.magnitude

theorem exponentField_eq (x : Binary64) : x.exponentField = x.magnitude / 2 ^ 52 := by
  unfold exponentField magnitude
  simp only [Nat.pow_eq]
  omega

theorem fractionField_eq (x : Binary64) : x.fractionField = x.magnitude % 2 ^ 52 := by
  unfold fractionField magnitude
  simp only [Nat.pow_eq]
  omega

/-- A value is its units. -/
theorem value_eq_units (x : Binary64) : x.value = x.units / unitsInOne := by
  have one : (unitsInOne : ℚ) = 2 ^ 1074 := Nat.cast_pow 2 1074
  have unsigned : (x.significand : ℚ) * (2 : ℚ) ^ x.scale = unitsOf x.magnitude / unitsInOne := by
    rw [one, significand, scale, unitsOf, exponentField_eq, fractionField_eq]
    by_cases h : x.magnitude / 2 ^ 52 = 0
    · have : x.magnitude % 2 ^ 52 = x.magnitude := by omega
      rw [if_pos h, if_pos h, if_pos h, this, zpow_neg, zpow_ofNat, div_eq_mul_inv]
    · obtain ⟨e, he⟩ := Nat.exists_eq_succ_of_ne_zero h
      rw [if_neg h, if_neg h, if_neg h, he]
      have : ((e.succ : Nat) : Int) - 1075 = (e : Int) - (1074 : Nat) := by push_cast; omega
      rw [this, zpow_sub₀ (by norm_num), zpow_natCast, zpow_natCast]
      rw [Nat.succ_sub_one, Nat.cast_mul, Nat.cast_pow, Nat.cast_ofNat, mul_div_assoc]
      rfl
  rw [value, mul_assoc, unsigned, units]
  split
  · rw [neg_one_mul, Int.cast_neg, Int.cast_natCast, neg_div]
  · rw [one_mul, Int.cast_natCast]

theorem value_le_iff {x y : Binary64} : x.value ≤ y.value ↔ x.units ≤ y.units := by
  have positive : (0 : ℚ) < unitsInOne := Nat.cast_pos.mpr unitsInOne_pos
  rw [value_eq_units, value_eq_units, div_le_div_iff_of_pos_right positive]
  exact Int.cast_le

theorem value_inj {x y : Binary64} : x.value = y.value ↔ x.units = y.units := by
  rw [le_antisymm_iff, value_le_iff, value_le_iff, ← le_antisymm_iff]

/-! ## §3. The total order. -/

/-- The double that is zero and has a sign. -/
def negativeZero : Binary64 := zero.neg

theorem rank_eq (x : Binary64) :
    x.rank = if x.isNegative then -(x.magnitude : Int) - 1 else x.magnitude := rfl

theorem bits_eq (x : Binary64) :
    x.bits.toNat = (if x.isNegative then 2 ^ 63 else 0) + x.magnitude := by
  have := x.bits.toNat_lt
  unfold isNegative magnitude
  simp only [Nat.pow_eq]
  split
  next h => simp only [decide_eq_true_eq] at h; omega
  next h => simp only [decide_eq_true_eq] at h; omega

theorem eq_of_magnitude {x y : Binary64} (sign : x.isNegative = y.isNegative)
    (h : x.magnitude = y.magnitude) : x = y := by
  have bits : x.bits.toNat = y.bits.toNat := by rw [bits_eq, bits_eq, sign, h]
  obtain ⟨xs⟩ := x
  obtain ⟨ys⟩ := y
  exact congrArg _ (UInt64.toNat_inj.mp bits)

theorem eq_negativeZero {x : Binary64} (sign : x.isNegative = true) (h : x.magnitude = 0) :
    x = negativeZero := eq_of_magnitude sign h

theorem eq_zero {x : Binary64} (sign : x.isNegative = false) (h : x.magnitude = 0) : x = zero :=
  eq_of_magnitude sign h

/-- **The total order goes by value.** -/
theorem value_le_of_totalLe {x y : Binary64} (h : x.totalLe y) : x.value ≤ y.value := by
  rw [totalLe, decide_eq_true_eq, rank_eq, rank_eq] at h
  rw [value_le_iff, units, units]
  have order := @unitsOf_strictMono.le_iff_le
  cases hx : x.isNegative <;> cases hy : y.isNegative <;>
    simp only [hx, hy, if_true, if_false, Bool.false_eq_true] at h ⊢
  · exact Int.ofNat_le.mpr (order.mpr (by omega))
  · omega
  · omega
  · have := order.mpr (show y.magnitude ≤ x.magnitude by omega)
    omega

/-- **Doubles of one value are equal in the total order, but for the two zeros.** -/
theorem totalLe_of_value_eq {x y : Binary64} (h : x.value = y.value) :
    x.totalLe y ∨ x = zero ∧ y = negativeZero := by
  rw [value_inj, units, units] at h
  have none {m : Nat} (h : unitsOf m = 0) : m = 0 := unitsOf_strictMono.injective h
  cases hx : x.isNegative <;> cases hy : y.isNegative <;>
    simp only [hx, hy, if_true, if_false, Bool.false_eq_true] at h
  case false.true =>
    exact .inr ⟨eq_zero hx (none (by omega)), eq_negativeZero hy (none (by omega))⟩
  all_goals
    refine .inl ?_
    rw [totalLe, decide_eq_true_eq, rank_eq, rank_eq, hx, hy]
  case false.false =>
    exact Int.ofNat_le.mpr (unitsOf_strictMono.injective (by omega)).le
  case true.false =>
    simp only [if_true, if_false, Bool.false_eq_true]
    omega
  case true.true =>
    have : x.magnitude = y.magnitude := unitsOf_strictMono.injective (by omega)
    rw [this]

/-- Every finite double lies below infinity. -/
theorem rank_lt_infinity {x : Binary64} (h : x.isFinite = true) :
    x.rank < infinity.rank := by
  have top : infinity.rank = 2047 * 2 ^ 52 := by decide
  rw [isFinite, decide_eq_true_eq, exponentField_eq] at h
  have := Nat.mod_lt x.bits.toNat (show 0 < 2 ^ 63 by decide)
  rw [rank_eq, top]
  unfold magnitude at h ⊢
  split <;> omega

/-! ## §4. Integers. -/

theorem magnitude_ofMagnitude {negative : Bool} {m : Nat} (h : m < 2 ^ 63) :
    (ofMagnitude negative m).magnitude = m ∧ (ofMagnitude negative m).isNegative = negative := by
  have bits : (ofMagnitude negative m).bits.toNat = (if negative then 2 ^ 63 else 0) + m := by
    cases negative <;> simp only [ofMagnitude, if_true, if_false, Bool.false_eq_true,
      UInt64.toNat_ofNat', Nat.pow_eq] <;> omega
  unfold magnitude isNegative
  rw [bits, Nat.pow_eq]
  cases negative <;> simp <;> omega

theorem roundHalfEven_one (n : Nat) : roundHalfEven n 1 = n := by
  simp [roundHalfEven, Nat.mod_one]

theorem ratioLog2_one {n : Nat} (h : n ≠ 0) : ratioLog2 n 1 = Nat.log2 n := by
  have fits : 2 ^ Nat.log2 n ≤ n := Nat.log2_self_le h
  have one : Nat.log2 1 = 0 := by decide
  simp [ratioLog2, one, fits]

/-- The significand of a natural number that has room in one. -/
theorem normal_bounds {n : Nat} (h : n ≠ 0) (small : n < 2 ^ 53) :
    Nat.log2 n ≤ 52 ∧ 2 ^ 52 ≤ n * 2 ^ (52 - Nat.log2 n) ∧ n * 2 ^ (52 - Nat.log2 n) < 2 ^ 53 := by
  have exponent : Nat.log2 n ≤ 52 := Nat.le_of_lt_succ ((Nat.log2_lt h).mpr small)
  have lower := Nat.mul_le_mul_right (2 ^ (52 - Nat.log2 n)) (Nat.log2_self_le h)
  have upper := Nat.mul_lt_mul_of_pos_right (@Nat.lt_log2_self n)
    (show 0 < 2 ^ (52 - Nat.log2 n) from Nat.pow_pos (by decide))
  rw [← Nat.pow_add, Nat.add_sub_cancel' exponent] at lower
  rw [Nat.pow_succ, Nat.mul_right_comm, ← Nat.pow_add,
    Nat.add_sub_cancel' exponent] at upper
  exact ⟨exponent, lower, by omega⟩

theorem magnitudeOfRatio_one {n : Nat} (h : n ≠ 0) (small : n < 2 ^ 53) :
    magnitudeOfRatio n 1 = (Nat.log2 n + 1022) * 2 ^ 52 + n * 2 ^ (52 - Nat.log2 n) := by
  obtain ⟨exponent, -, upper⟩ := normal_bounds h small
  have scale : max ((Nat.log2 n : Int) - 52) (-1074) = -((52 - Nat.log2 n : Nat) : Int) := by omega
  have shift : (-(((52 - Nat.log2 n : Nat) : Int)) + 1074).toNat = Nat.log2 n + 1022 := by omega
  have rounded : (if -((52 - Nat.log2 n : Nat) : Int) ≥ 0
        then roundHalfEven n (1 * Nat.pow 2 (-((52 - Nat.log2 n : Nat) : Int)).toNat)
        else roundHalfEven (n * Nat.pow 2 (- -((52 - Nat.log2 n : Nat) : Int)).toNat) 1)
      = n * 2 ^ (52 - Nat.log2 n) := by
    split
    next whole =>
      obtain rest : 52 - Nat.log2 n = 0 := by omega
      simp [rest, roundHalfEven_one]
    next => rw [neg_neg, Int.toNat_natCast, Nat.pow_eq, roundHalfEven_one]
  rw [magnitudeOfRatio, if_neg (by simp [h]), ratioLog2_one h]
  simp only [scale, rounded, shift]
  refine Nat.min_eq_left ?_
  rw [infinityMagnitude, Nat.pow_eq]
  omega

/-- A natural number that has room in a significand stands for itself. -/
theorem unitsOf_magnitudeOfRatio {n : Nat} (small : n < 2 ^ 53) :
    magnitudeOfRatio n 1 < infinityMagnitude
      ∧ unitsOf (magnitudeOfRatio n 1) = n * unitsInOne := by
  rcases Nat.eq_zero_or_pos n with rfl | positive
  · exact ⟨by decide, (Nat.zero_mul _).symm⟩
  · obtain ⟨exponent, lower, upper⟩ := normal_bounds positive.ne' small
    have hidden : (Nat.log2 n + 1022) * 2 ^ 52 + n * 2 ^ (52 - Nat.log2 n)
        = (Nat.log2 n + 1022 + 1) * 2 ^ 52 + (n * 2 ^ (52 - Nat.log2 n) - 2 ^ 52) := by omega
    have shift : 52 - Nat.log2 n + (Nat.log2 n + 1022) = 1074 := by omega
    have one : 2 ^ (52 - Nat.log2 n + (Nat.log2 n + 1022)) = unitsInOne := by
      rw [shift, unitsInOne]
    rw [magnitudeOfRatio_one positive.ne' small]
    constructor
    · rw [infinityMagnitude, Nat.pow_eq]
      omega
    · rw [hidden, unitsOf_normal (by omega), Nat.add_sub_cancel' lower, Nat.mul_assoc,
        ← Nat.pow_add, one]

/-- **Integers of up to fifty-three bits are read as they are.** -/
theorem value_ofInt {n : Int} (small : n.natAbs < 2 ^ 53) :
    (ofInt n).value = n ∧ (ofInt n).isFinite = true := by
  obtain ⟨finite, same⟩ := unitsOf_magnitudeOfRatio small
  have room : magnitudeOfRatio n.natAbs 1 < 2 ^ 63 := Nat.lt_trans finite (by decide)
  obtain ⟨hm, hs⟩ := @magnitude_ofMagnitude (n < 0) _ room
  constructor
  · have positive : (unitsInOne : ℚ) ≠ 0 := Nat.cast_ne_zero.mpr unitsInOne_pos.ne'
    have signed : (ofInt n).units = n * unitsInOne := by
      rw [ofInt, ofRatio, units, hm, hs, same, Nat.cast_mul]
      split
      next h => rw [← neg_mul, Int.ofNat_natAbs_of_nonpos (of_decide_eq_true h).le, neg_neg]
      next h => rw [Int.natAbs_of_nonneg (by simpa using h)]
    rw [value_eq_units, signed, Int.cast_mul, Int.cast_natCast, mul_div_cancel_right₀ _ positive]
  · rw [isFinite, decide_eq_true_eq, exponentField_eq, ofInt, ofRatio, hm]
    rw [infinityMagnitude, Nat.pow_eq] at finite
    omega

end Binary64

end Pageflow
