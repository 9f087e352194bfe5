import Mathlib
import SheetFormula.Decimal.Ratio

/-!
# Ratios as Rational Numbers

A ratio keeps its two parts as they come. Here it is read as a rational number, and the
operations on ratios are those on rational numbers: scaling is a product with a power,
comparing is the order, and rounding goes to the nearest integer. The number of decimal
places comes from an estimate by binary logarithms, which is good enough for every ratio
whose parts do not lie too far apart.

## Main results

* `Ratio.value_scaleBy`, `Ratio.below_iff`, `Ratio.floor_eq`: the operations by their values.
* `Ratio.round_eq_of_near`, `Ratio.round_eq_of_even`: **rounding goes to the nearest integer**,
  and to the even one of two.
* `Ratio.pow_magnitude_le`: a ratio has no fewer decimal places than its magnitude.
-/

namespace SheetFormula.Decimal.Ratio

/-- The rational number that a ratio is. -/
def value (r : Ratio) : ℚ := r.num / r.den

/-! ### Scaling and comparing -/

/-- Scaling a ratio keeps its denominator positive. -/
theorem den_scaleBy_pos {base : Nat} (hbase : 0 < base) (k : Int) {r : Ratio}
    (hr : 0 < r.den) : 0 < (r.scaleBy base k).den := by
  rw [scaleBy]
  split
  · exact hr
  · exact Nat.mul_pos hr (Nat.pow_pos hbase)

/-- Scaling is a product with a power of the base. -/
theorem value_scaleBy {base : Nat} (hbase : 0 < base) (k : Int) (r : Ratio) :
    (r.scaleBy base k).value = r.value * (base : ℚ) ^ k := by
  have hne : (base : ℚ) ≠ 0 := by positivity
  rw [scaleBy]
  split
  · rename_i hk
    have hpow : (base : ℚ) ^ k = (base : ℚ) ^ k.toNat := by
      rw [← zpow_natCast, Int.toNat_of_nonneg hk]
    simp only [value, Nat.cast_mul, Nat.pow_eq, Nat.cast_pow, hpow]
    ring
  · rename_i hk
    have hpow : (base : ℚ) ^ k = ((base : ℚ) ^ (-k).toNat)⁻¹ := by
      rw [← zpow_natCast, Int.toNat_of_nonneg (by omega), ← zpow_neg, neg_neg]
    simp only [value, Nat.cast_mul, Nat.pow_eq, Nat.cast_pow, hpow]
    rw [div_mul_eq_div_div, div_eq_mul_inv]

/-- One ratio is below another exactly when its value is less. -/
theorem below_iff {r s : Ratio} (hr : 0 < r.den) (hs : 0 < s.den) :
    r.below s = true ↔ r.value < s.value := by
  have hr' : (0 : ℚ) < r.den := by exact_mod_cast hr
  have hs' : (0 : ℚ) < s.den := by exact_mod_cast hs
  rw [below, decide_eq_true_iff, value, value, div_lt_div_iff₀ hr' hs']
  exact_mod_cast Iff.rfl

/-- One ratio is at most another exactly when its value is. -/
theorem atMost_iff {r s : Ratio} (hr : 0 < r.den) (hs : 0 < s.den) :
    r.atMost s = true ↔ r.value ≤ s.value := by
  rw [atMost, Bool.not_eq_true', ← Bool.not_eq_true, below_iff hs hr, not_lt]

/-- The value of a ratio is not negative. -/
theorem value_nonneg (r : Ratio) : 0 ≤ r.value := by
  rw [value]
  positivity

/-! ### Rounding -/

/-- The floor of a ratio is that of its value. -/
theorem floor_eq (r : Ratio) : r.floor = ⌊r.value⌋₊ := by
  rw [floor, value, Nat.floor_div_eq_div]

/-- Rounding moves the value by at most one half. -/
theorem abs_value_sub_round_le {r : Ratio} (hr : 0 < r.den) :
    |r.value - r.round| ≤ 1 / 2 := by
  have hden : (0 : ℚ) < r.den := by exact_mod_cast hr
  obtain ⟨hhigh, hlow⟩ := r.round_within_half hr
  have hhigh' : 2 * (r.num : ℚ) ≤ (2 * r.round + 1) * r.den := by exact_mod_cast hhigh
  have hlow' : 2 * (r.round : ℚ) * r.den ≤ 2 * r.num + r.den := by exact_mod_cast hlow
  have hvalue : r.value * r.den = r.num := div_mul_cancel₀ _ hden.ne'
  rw [abs_le]
  constructor
  · by_contra hneg
    rw [not_le] at hneg
    nlinarith
  · by_contra hpos
    rw [not_le] at hpos
    nlinarith

/-- A ratio halfway between two integers is a tie. -/
theorem tie_of_two_mul_value {r : Ratio} (hr : 0 < r.den) {k : Nat}
    (h : 2 * r.value = 2 * k + 1) : 2 * (r.num % r.den) = r.den := by
  have hden : (r.den : ℚ) ≠ 0 := by positivity
  have hnum : 2 * r.num = (2 * k + 1) * r.den := by
    have hq : 2 * (r.num : ℚ) = (2 * k + 1) * r.den := by
      rw [← h, value]
      field_simp
    exact_mod_cast hq
  have hsplit : (2 * k + 1) * r.den = r.den + 2 * r.den * k := by ring
  rw [← Nat.mul_mod_mul_left, hnum, hsplit, Nat.add_mul_mod_self_left, Nat.mod_eq_of_lt]
  omega

/-- What a ratio is rounded to is not much farther from an integer than its value. -/
theorem abs_round_sub_le {r : Ratio} (hr : 0 < r.den) (n : ℚ) :
    |r.round - n| ≤ |r.value - n| + 1 / 2 := by
  have hround := abs_value_sub_round_le hr
  have htriangle := abs_sub_le (r.round : ℚ) r.value n
  rw [abs_sub_comm (r.round : ℚ) r.value] at htriangle
  linarith

/-- An integer nearer than one half is what a ratio is rounded to. -/
theorem round_eq_of_near {r : Ratio} (hr : 0 < r.den) {n : Nat}
    (h : |r.value - n| < 1 / 2) : r.round = n := by
  have hround := abs_round_sub_le hr n
  have hdist : |(r.round : ℚ) - n| < 1 := by linarith
  have hint : |(r.round : ℤ) - n| < 1 := by exact_mod_cast hdist
  have hzero := Int.abs_lt_one_iff.mp hint
  omega

/-- An even integer that is no farther than one half is what a ratio is rounded to: at one half
there is a tie, and two even integers are not neighbours. -/
theorem round_eq_of_even {r : Ratio} (hr : 0 < r.den) {n : Nat} (hn : n % 2 = 0)
    (h : |r.value - n| ≤ 1 / 2) : r.round = n := by
  rcases lt_or_eq_of_le h with hlt | heq
  · exact round_eq_of_near hr hlt
  have htie : r.round % 2 = 0 := by
    rcases (abs_eq (by norm_num : (0 : ℚ) ≤ 1 / 2)).mp heq with hup | hdown
    · exact r.even_round_of_tie (tie_of_two_mul_value hr (k := n) (by linarith))
    · have hpos : 0 < n := by
        have hnonneg := r.value_nonneg
        have hcast : (0 : ℚ) < n := by linarith
        exact_mod_cast hcast
      refine r.even_round_of_tie (tie_of_two_mul_value hr (k := n - 1) ?_)
      rw [Nat.cast_sub hpos]
      push_cast
      linarith
  have hround := abs_round_sub_le hr n
  have hdist : |(r.round : ℚ) - n| ≤ 1 := by linarith
  have hint : |(r.round : ℤ) - n| ≤ 1 := by exact_mod_cast hdist
  rw [abs_le] at hint
  omega

/-! ### The number of decimal places -/

/-- Fifty-nine powers of ten lie below one hundred and ninety-six powers of two. -/
theorem ten_pow_le_two_pow {a b : Nat} (h : 196 * a ≤ 59 * b) : 10 ^ a ≤ 2 ^ b := by
  have hpow : (10 ^ a) ^ 59 ≤ (2 ^ b) ^ 59 := by
    calc (10 ^ a) ^ 59 = (10 ^ 59) ^ a := by rw [← pow_mul, ← pow_mul, Nat.mul_comm]
      _ ≤ (2 ^ 196) ^ a := Nat.pow_le_pow_left (by norm_num) a
      _ = 2 ^ (196 * a) := by rw [← pow_mul]
      _ ≤ 2 ^ (59 * b) := Nat.pow_le_pow_right (by norm_num) h
      _ = (2 ^ b) ^ 59 := by rw [← pow_mul, Nat.mul_comm]
  exact (Nat.pow_le_pow_iff_left (by norm_num)).mp hpow

/-- Ninety-three powers of two lie below twenty-eight powers of ten. -/
theorem two_pow_le_ten_pow {a b : Nat} (h : 28 * b ≤ 93 * a) : 2 ^ b ≤ 10 ^ a := by
  have hpow : (2 ^ b) ^ 93 ≤ (10 ^ a) ^ 93 := by
    calc (2 ^ b) ^ 93 = (2 ^ 93) ^ b := by rw [← pow_mul, ← pow_mul, Nat.mul_comm]
      _ ≤ (10 ^ 28) ^ b := Nat.pow_le_pow_left (by norm_num) b
      _ = 10 ^ (28 * b) := by rw [← pow_mul]
      _ ≤ 10 ^ (93 * a) := Nat.pow_le_pow_right (by norm_num) h
      _ = (10 ^ a) ^ 93 := by rw [← pow_mul, Nat.mul_comm]
  exact (Nat.pow_le_pow_iff_left (by norm_num)).mp hpow

/-- The binary logarithms of the parts of a ratio bound its value from below. -/
theorem two_zpow_le_value {r : Ratio} (hnum : r.num ≠ 0) (hden : 0 < r.den) :
    (2 : ℚ) ^ ((r.num.log2 : ℤ) - r.den.log2 - 1) ≤ r.value := by
  have hlow : (2 : ℚ) ^ r.num.log2 ≤ r.num := by exact_mod_cast Nat.log2_self_le hnum
  have hhigh : (r.den : ℚ) ≤ 2 ^ (r.den.log2 + 1) := by
    exact_mod_cast (Nat.lt_log2_self (n := r.den)).le
  have hpos : (0 : ℚ) < r.den := by exact_mod_cast hden
  have hexp : (r.num.log2 : ℤ) - r.den.log2 - 1 = r.num.log2 - (r.den.log2 + 1 : ℕ) := by
    push_cast
    ring
  rw [hexp, zpow_sub₀ (by norm_num), zpow_natCast, zpow_natCast, value]
  gcongr

/-- The binary logarithms of the parts of a ratio bound its value from above. -/
theorem value_lt_two_zpow {r : Ratio} (hden : r.den ≠ 0) :
    r.value < (2 : ℚ) ^ ((r.num.log2 : ℤ) - r.den.log2 + 1) := by
  have hlow : (2 : ℚ) ^ r.den.log2 ≤ r.den := by exact_mod_cast Nat.log2_self_le hden
  have hhigh : (r.num : ℚ) < 2 ^ (r.num.log2 + 1) := by
    exact_mod_cast (Nat.lt_log2_self (n := r.num))
  have hexp : (r.num.log2 : ℤ) - r.den.log2 + 1 = (r.num.log2 + 1 : ℕ) - r.den.log2 := by
    push_cast
    ring
  rw [hexp, zpow_sub₀ (by norm_num), zpow_natCast, zpow_natCast, value]
  gcongr

/-- A ratio whose parts lie no farther apart than doubles do. -/
def Moderate (r : Ratio) : Prop :=
  -30000 ≤ (r.num.log2 : ℤ) - r.den.log2 ∧ (r.num.log2 : ℤ) - r.den.log2 ≤ 30000

/-- The estimate of the magnitude is at most two too high. -/
theorem ten_zpow_estimate_le {d : ℤ} (hlow : -30000 ≤ d) (hhigh : d ≤ 30000) :
    (10 : ℚ) ^ (d * 30103 / 100000 - 2) ≤ 2 ^ (d - 1) := by
  rcases le_total 0 (d * 30103 / 100000 - 2) with hup | hdown
  · have hnat := ten_pow_le_two_pow (a := (d * 30103 / 100000 - 2).toNat) (b := (d - 1).toNat)
      (by omega)
    rw [← Int.toNat_of_nonneg hup, ← Int.toNat_of_nonneg (a := d - 1) (by omega), zpow_natCast,
      zpow_natCast]
    exact_mod_cast hnat
  · rcases le_total 0 (d - 1) with hd | hd
    · calc (10 : ℚ) ^ (d * 30103 / 100000 - 2) ≤ 1 :=
            zpow_le_one_of_nonpos₀ (by norm_num) hdown
        _ ≤ 2 ^ (d - 1) := one_le_zpow₀ (by norm_num) hd
    · have hnat := two_pow_le_ten_pow (a := (-(d * 30103 / 100000 - 2)).toNat)
        (b := (-(d - 1)).toNat) (by omega)
      have hcast : (2 : ℚ) ^ (-(d - 1)) ≤ 10 ^ (-(d * 30103 / 100000 - 2)) := by
        rw [← Int.toNat_of_nonneg (a := -(d - 1)) (by omega),
          ← Int.toNat_of_nonneg (a := -(d * 30103 / 100000 - 2)) (by omega), zpow_natCast,
          zpow_natCast]
        exact_mod_cast hnat
      rw [zpow_neg, zpow_neg] at hcast
      exact (inv_le_inv₀ (by positivity) (by positivity)).mp hcast

/-- Whether a power of ten is **enough** for a ratio, by values. -/
theorem below_ten_zpow_iff {r : Ratio} (hden : 0 < r.den) (p : ℤ) :
    r.below ((⟨1, 1⟩ : Ratio).scaleBy 10 p) = true ↔ r.value < 10 ^ p := by
  have hone : (⟨1, 1⟩ : Ratio).value = 1 := by simp [value]
  rw [below_iff hden (den_scaleBy_pos (by norm_num) p (by norm_num)),
    value_scaleBy (by norm_num), hone, one_mul]
  norm_cast

/-- **A ratio has no fewer decimal places** before the point than its magnitude. -/
theorem pow_magnitude_le {r : Ratio} (hnum : r.num ≠ 0) (hden : 0 < r.den)
    (hmoderate : r.Moderate) : (10 : ℚ) ^ (r.magnitude - 1) ≤ r.value := by
  have hnot : ∀ {p : ℤ}, ¬ r.below ((⟨1, 1⟩ : Ratio).scaleBy 10 p) = true →
      (10 : ℚ) ^ p ≤ r.value := by
    intro p hp
    rwa [below_ten_zpow_iff hden, not_lt] at hp
  rw [magnitude]
  dsimp only
  split
  · have hestimate := ten_zpow_estimate_le hmoderate.1 hmoderate.2
    have hlog := two_zpow_le_value hnum hden
    rw [sub_sub]
    exact hestimate.trans hlog
  · rename_i hfirst
    split
    · exact hnot hfirst
    · rename_i hsecond
      split
      · rw [add_sub_cancel_right]
        exact hnot hsecond
      · rename_i hthird
        have hexp : ((r.num.log2 : ℤ) - r.den.log2) * 30103 / 100000 + 2 - 1 =
            ((r.num.log2 : ℤ) - r.den.log2) * 30103 / 100000 + 1 := by ring
        rw [hexp]
        exact hnot hthird

end SheetFormula.Decimal.Ratio
