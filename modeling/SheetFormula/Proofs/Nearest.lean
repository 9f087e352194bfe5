import SheetFormula.Decimal.Digits
import SheetFormula.Proofs.Ratios

/-!
# The Numbers Nearest to a Double

A finite double is a significand times a power of two. The numbers that lie in its interval,
between the midpoints to its two neighbours, are nearer to it than to any other double, and
finding the nearest double leads from each of them back to it. One case is out of the
ordinary: below a power of two the doubles lie twice as close, so that a number slightly
below it has the smaller exponent and is rounded up to the power again.

## Main results

* `Binary.ofFloat_finite`: the bits of a finite double from its significand and exponent.
* `nearest_eq_ofBits_of_bounds`: the nearest double has the exponent that its size asks for.
* `nearest_of_contains`: **every number in the interval of a double is nearest to it**.
-/

namespace SheetFormula.Decimal

/-! ### The bits of a finite double -/

/-- The bits of the sign of a double. -/
def signBits (negative : Bool) : Nat := if negative then Nat.pow 2 63 else 0

/-- A significand and an exponent as a finite double has them. -/
structure Normal (significand : Nat) (exponent : Int) : Prop where
  low : -1074 ≤ exponent
  high : exponent ≤ 971
  small : significand < 2 ^ 53
  /-- Only the least exponent has significands with fewer bits. -/
  full : exponent = -1074 ∨ 2 ^ 52 ≤ significand

/-- The bits of the size of a double: the exponent, and the significand without its first
bit. -/
def sizeBits (significand : Nat) (exponent : Int) : Nat :=
  significand + (exponent + 1074).toNat * Nat.pow 2 52

/-- The bits of the sign are the highest of 64 bits. -/
theorem signBits_eq {bits : Nat} (h : bits < 2 ^ 64) :
    signBits (bits / 2 ^ 63 == 1) = bits / 2 ^ 63 * 2 ^ 63 := by
  rw [signBits, Nat.pow_eq]
  split
  · rename_i hsign
    rw [beq_iff_eq] at hsign
    omega
  · rename_i hsign
    rw [beq_iff_eq] at hsign
    omega

/-- **A finite double** is its sign, its significand and its exponent. -/
theorem Binary.ofFloat_finite {x : Float} {negative : Bool} {significand : Nat}
    {exponent : Int} (h : ofFloat x = .finite negative significand exponent) :
    Normal significand exponent ∧
      x = Float.ofBits (UInt64.ofNat (signBits negative + sizeBits significand exponent)) := by
  have hbits : x = Float.ofBits (UInt64.ofNat x.toBits.toNat) := by
    rw [UInt64.ofNat_toNat, Float.ofBits_toBits]
  have hlt : x.toBits.toNat < 2 ^ 64 := UInt64.toNat_lt _
  have hsplit := signBits_eq hlt
  simp only [ofFloat, Nat.pow_eq] at h
  split at h
  · split at h <;> cases h
  · rename_i hfinite
    split at h
    · cases h
      rename_i hzero
      refine ⟨⟨by omega, by omega, by omega, Or.inl rfl⟩, ?_⟩
      nth_rewrite 1 [hbits]
      congr 2
      simp only [hsplit, sizeBits, Nat.pow_eq]
      omega
    · cases h
      rename_i hzero
      refine ⟨⟨by omega, by omega, by omega, Or.inr (by omega)⟩, ?_⟩
      nth_rewrite 1 [hbits]
      congr 2
      simp only [hsplit, sizeBits, Nat.pow_eq]
      omega

/-! ### The exponent of the nearest double -/

/-- The exponent that makes the significand of a ratio one of fifty-three bits, as the parts
of the ratio tell it. -/
theorem exists_exponent {r : Ratio} (hnum : r.num ≠ 0) (hden : 0 < r.den) :
    let guess : Int := (r.num.log2 : Int) - r.den.log2 - 52
    let exponent := if 2 ^ 52 ≤ (r.scaleBy 2 (-guess)).floor then guess else guess - 1
    (2 : ℚ) ^ (52 + exponent) ≤ r.value ∧ r.value < 2 ^ (53 + exponent) := by
  intro guess exponent
  have hlow := Ratio.two_zpow_le_value hnum hden
  have hhigh := Ratio.value_lt_two_zpow hden.ne'
  have hfits : 2 ^ 52 ≤ (r.scaleBy 2 (-guess)).floor ↔ (2 : ℚ) ^ (52 + guess) ≤ r.value := by
    have hscaled : (r.scaleBy 2 (-guess)).value = r.value * 2 ^ (-guess) := by
      rw [Ratio.value_scaleBy (by norm_num)]
      norm_num
    rw [Ratio.floor_eq, Nat.le_floor_iff (Ratio.value_nonneg _), hscaled,
      zpow_neg, ← div_eq_mul_inv, le_div_iff₀ (by positivity), zpow_add₀ (by norm_num)]
    norm_num
  by_cases hfit : 2 ^ 52 ≤ (r.scaleBy 2 (-guess)).floor
  · have hexp : exponent = guess := if_pos hfit
    rw [hexp]
    refine ⟨hfits.mp hfit, ?_⟩
    have hguess : (r.num.log2 : Int) - r.den.log2 + 1 = 53 + guess := by ring
    rwa [hguess] at hhigh
  · have hexp : exponent = guess - 1 := if_neg hfit
    rw [hexp]
    constructor
    · have hguess : (r.num.log2 : Int) - r.den.log2 - 1 = 52 + (guess - 1) := by ring
      rwa [hguess] at hlow
    · rw [hfits, not_le] at hfit
      have hguess : 52 + guess = 53 + (guess - 1) := by ring
      rwa [hguess] at hfit

/-- **The exponent of the nearest double** is the one that its size asks for, but none below
the least one. -/
theorem nearest_eq_ofBits_of_bounds {r : Ratio} (hnum : r.num ≠ 0) (hden : 0 < r.den)
    {exponent : Int} (hleast : -1074 ≤ exponent)
    (hlow : exponent = -1074 ∨ (2 : ℚ) ^ (52 + exponent) ≤ r.value)
    (hhigh : r.value < 2 ^ (53 + exponent)) (negative : Bool) :
    nearest negative r = Float.ofBits (UInt64.ofNat (signBits negative +
      min (sizeBits (r.scaleBy 2 (-exponent)).round exponent) (2047 * Nat.pow 2 52))) := by
  have hexists := exists_exponent hnum hden
  rw [nearest, if_neg hnum]
  simp only [Nat.pow_eq] at hexists ⊢
  generalize hguess : (r.num.log2 : Int) - r.den.log2 - 52 = guess at hexists ⊢
  generalize (if 2 ^ 52 ≤ (r.scaleBy 2 (-guess)).floor then guess else guess - 1) =
    chosen at hexists
  have hmax : max chosen (-1074) = exponent := by
    have hupper : 52 + chosen < 53 + exponent :=
      (zpow_lt_zpow_iff_right₀ (by norm_num : (1 : ℚ) < 2)).mp (hexists.1.trans_lt hhigh)
    rcases hlow with hleast | hlow
    · omega
    · have hlower : 52 + exponent < 53 + chosen :=
        (zpow_lt_zpow_iff_right₀ (by norm_num : (1 : ℚ) < 2)).mp (hlow.trans_lt hexists.2)
      omega
  simp only [hmax]
  rfl

/-! ### Intervals -/

/-- The ratio of a significand and an exponent has a positive denominator. -/
theorem Ratio.den_ofBinary_pos (significand : Nat) (exponent : Int) :
    0 < (Ratio.ofBinary significand exponent).den :=
  Ratio.den_scaleBy_pos (by norm_num) _ (by norm_num)

/-- The ratio of a significand and an exponent has their value. -/
theorem Ratio.value_ofBinary (significand : Nat) (exponent : Int) :
    (Ratio.ofBinary significand exponent).value = significand * 2 ^ exponent := by
  have hone : (⟨significand, 1⟩ : Ratio).value = significand := by simp [Ratio.value]
  rw [Ratio.ofBinary, Ratio.value_scaleBy (by norm_num), hone]
  norm_cast

namespace Digits.Interval

/-- How far an interval reaches below its double, in units of the last place of the
significand. -/
def gapBelow (significand : Nat) (exponent : Int) : ℚ :=
  if significand = 2 ^ 52 ∧ -1074 < exponent then 1 / 4 else 1 / 2

/-- The way down to half way is a quarter or a half of a unit. -/
theorem gapBelow_bounds (significand : Nat) (exponent : Int) :
    1 / 4 ≤ gapBelow significand exponent ∧ gapBelow significand exponent ≤ 1 / 2 := by
  rw [gapBelow]
  split <;> norm_num

variable {significand : Nat} {exponent : Int}

/-- The lower end of the interval is that way below the double. -/
theorem value_low (hpos : 0 < significand) : (around significand exponent).low.value =
    (significand - gapBelow significand exponent) * 2 ^ exponent := by
  have hpow : (2 : ℚ) ^ (exponent - 2) = 2 ^ exponent / 4 := by
    rw [zpow_sub₀ (by norm_num)]
    norm_num
  simp only [around, Ratio.value_ofBinary, hpow, gapBelow, Nat.pow_eq]
  split
  · rw [Nat.cast_sub (by omega)]
    push_cast
    ring
  · rw [Nat.cast_sub (by omega)]
    push_cast
    ring

/-- The upper end of the interval is half a unit above the double. -/
theorem value_high : (around significand exponent).high.value =
    (significand + 1 / 2) * 2 ^ exponent := by
  have hpow : (2 : ℚ) ^ (exponent - 2) = 2 ^ exponent / 4 := by
    rw [zpow_sub₀ (by norm_num)]
    norm_num
  simp only [around, Ratio.value_ofBinary, hpow]
  push_cast
  ring

/-- The numbers in an interval, by their values in units of the last place. The ends belong
to it when the significand is even. -/
theorem contains_iff (hpos : 0 < significand) {r : Ratio} (hr : 0 < r.den) {y : ℚ}
    (hy : r.value = y * 2 ^ exponent) :
    (around significand exponent).contains r = true ↔
      if significand % 2 = 0 then
        significand - gapBelow significand exponent ≤ y ∧ y ≤ significand + 1 / 2
      else significand - gapBelow significand exponent < y ∧ y < significand + 1 / 2 := by
  have hpow : (0 : ℚ) < 2 ^ exponent := by positivity
  have hlow : 0 < (around significand exponent).low.den := Ratio.den_ofBinary_pos _ _
  have hhigh : 0 < (around significand exponent).high.den := Ratio.den_ofBinary_pos _ _
  have hclosed : (around significand exponent).closed = decide (significand % 2 = 0) := rfl
  rw [contains, hclosed]
  by_cases heven : significand % 2 = 0
  · rw [if_pos heven, if_pos (decide_eq_true heven), Bool.and_eq_true, Ratio.atMost_iff hlow hr,
      Ratio.atMost_iff hr hhigh, value_low hpos, value_high, hy,
      mul_le_mul_iff_of_pos_right hpow, mul_le_mul_iff_of_pos_right hpow]
  · rw [if_neg heven, if_neg (by simpa using heven), Bool.and_eq_true, Ratio.below_iff hlow hr,
      Ratio.below_iff hr hhigh, value_low hpos, value_high, hy,
      mul_lt_mul_iff_of_pos_right hpow, mul_lt_mul_iff_of_pos_right hpow]

/-- A number nearer than a quarter of the last place lies in the interval. -/
theorem contains_of_near (hpos : 0 < significand) {r : Ratio} (hr : 0 < r.den) {y : ℚ}
    (hy : r.value = y * 2 ^ exponent) (hnear : |y - significand| < 1 / 4) :
    (around significand exponent).contains r = true := by
  have hgap := gapBelow_bounds significand exponent
  rw [abs_lt] at hnear
  rw [contains_iff hpos hr hy]
  split <;> constructor <;> linarith

end Digits.Interval

/-! ### Back to the double -/

/-- The nearest double to a number by the exponent that its size asks for, and by the integer
to which it is rounded in units of the last place. -/
theorem nearest_eq_ofBits_of_near {r : Ratio} (hr : 0 < r.den) {exponent : Int}
    (hleast : -1074 ≤ exponent) (hlast : exponent ≤ 971) {y : ℚ}
    (hy : r.value = y * 2 ^ exponent) (hpos : 0 < y)
    (hlow : exponent = -1074 ∨ (2 : ℚ) ^ 52 ≤ y) (hhigh : y < 2 ^ 53) {n : Nat}
    (hclose : |y - n| ≤ 1 / 2) (hodd : n % 2 ≠ 0 → |y - n| < 1 / 2) (negative : Bool) :
    nearest negative r = Float.ofBits (UInt64.ofNat (signBits negative + sizeBits n exponent)) := by
  have hpow : (0 : ℚ) < 2 ^ exponent := by positivity
  have hnum : r.num ≠ 0 := by
    intro hzero
    have hvalue : r.value = 0 := by rw [Ratio.value, hzero, Nat.cast_zero, zero_div]
    have hprod := mul_pos hpos hpow
    linarith
  have hlower : exponent = -1074 ∨ (2 : ℚ) ^ (52 + exponent) ≤ r.value := by
    refine hlow.imp_right (fun hlow => ?_)
    rw [zpow_add₀ (by norm_num), hy]
    exact mul_le_mul_of_nonneg_right (by exact_mod_cast hlow) hpow.le
  have hupper : r.value < 2 ^ (53 + exponent) := by
    rw [zpow_add₀ (by norm_num), hy]
    exact mul_lt_mul_of_pos_right (by exact_mod_cast hhigh) hpow
  have hden := @Ratio.den_scaleBy_pos 2 (by norm_num) (-exponent) r hr
  have hscaled : (r.scaleBy 2 (-exponent)).value = y := by
    rw [Ratio.value_scaleBy (by norm_num), hy, Nat.cast_ofNat, mul_assoc,
      ← zpow_add₀ (by norm_num), add_neg_cancel, zpow_zero, mul_one]
  have hround : (r.scaleBy 2 (-exponent)).round = n := by
    by_cases heven : n % 2 = 0
    · exact Ratio.round_eq_of_even hden heven (by rwa [hscaled])
    · exact Ratio.round_eq_of_near hden (by rw [hscaled]; exact hodd heven)
  have hn : n ≤ 2 ^ 53 := by
    rw [abs_le] at hclose
    have hcast : (n : ℚ) < 2 ^ 53 + 1 := by linarith
    have hnat : n < 2 ^ 53 + 1 := by exact_mod_cast hcast
    omega
  rw [nearest_eq_ofBits_of_bounds hnum hr hleast hlower hupper, hround, Nat.min_eq_left]
  simp only [sizeBits, Nat.pow_eq]
  omega

open Digits in
/-- **Every number in the interval of a double is nearest to it.** It has the exponent of the
double, or lies below a power of two and is rounded up. -/
theorem nearest_of_contains {x : Float} {negative : Bool} {significand : Nat} {exponent : Int}
    (hx : Binary.ofFloat x = .finite negative significand exponent) (hpos : 0 < significand)
    {r : Ratio} (hr : 0 < r.den)
    (hin : (Interval.around significand exponent).contains r = true) :
    nearest negative r = x := by
  obtain ⟨hnormal, hbits⟩ := Binary.ofFloat_finite hx
  have hpow : (0 : ℚ) < 2 ^ exponent := by positivity
  obtain ⟨y, hy⟩ : ∃ y, r.value = y * 2 ^ exponent :=
    ⟨r.value / 2 ^ exponent, (div_mul_cancel₀ _ hpow.ne').symm⟩
  obtain ⟨hclose, hodd, hgap⟩ : |y - significand| ≤ 1 / 2 ∧
      (significand % 2 ≠ 0 → |y - significand| < 1 / 2) ∧
      significand - Interval.gapBelow significand exponent ≤ y := by
    have hbounds := Interval.gapBelow_bounds significand exponent
    have hcontains := (Interval.contains_iff hpos hr hy).mp hin
    split at hcontains
    · rename_i heven
      refine ⟨?_, fun hodd => absurd heven hodd, hcontains.1⟩
      rw [abs_le]
      constructor <;> linarith
    · have hlt : |y - significand| < 1 / 2 := by
        rw [abs_lt]
        constructor <;> linarith
      exact ⟨hlt.le, fun _ => hlt, hcontains.1.le⟩
  have hsmall : (significand : ℚ) + 1 ≤ 2 ^ 53 := by exact_mod_cast hnormal.small
  have hone : (1 : ℚ) ≤ significand := by exact_mod_cast hpos
  have hends := abs_le.mp hclose
  rw [hbits]
  by_cases hfull : exponent = -1074 ∨ (2 : ℚ) ^ 52 ≤ y
  · exact nearest_eq_ofBits_of_near hr hnormal.low hnormal.high hy (by linarith) hfull (by linarith)
      hclose hodd negative
  · rw [not_or, not_le] at hfull
    obtain ⟨hleast, hbelow⟩ := hfull
    have hsignificand : significand = 2 ^ 52 := by
      have hlower : 2 ^ 52 ≤ significand := hnormal.full.resolve_left hleast
      have hupper : (significand : ℚ) < 2 ^ 52 + 1 := by linarith
      have hcast : significand < 2 ^ 52 + 1 := by exact_mod_cast hupper
      omega
    subst hsignificand
    have hexp : -1074 < exponent := lt_of_le_of_ne hnormal.low (Ne.symm hleast)
    have hquarter : (2 : ℚ) ^ 52 - 1 / 4 ≤ y := by
      have hgapBelow : Interval.gapBelow (2 ^ 52) exponent = 1 / 4 := if_pos ⟨rfl, hexp⟩
      rw [hgapBelow] at hgap
      exact_mod_cast hgap
    have hsize : sizeBits (2 ^ 53) (exponent - 1) = sizeBits (2 ^ 52) exponent := by
      simp only [sizeBits, Nat.pow_eq]
      omega
    have hdouble : r.value = 2 * y * 2 ^ (exponent - 1) := by
      rw [hy, zpow_sub₀ (by norm_num), zpow_one]
      ring
    have hnear : |2 * y - (2 ^ 53 : ℕ)| ≤ 1 / 2 := by
      push_cast
      rw [abs_le]
      constructor <;> linarith
    have hlast := hnormal.high
    rw [← hsize]
    exact nearest_eq_ofBits_of_near hr (by omega) (by omega) hdouble (by linarith)
      (Or.inr (by linarith)) (by linarith) hnear (fun hodd => absurd (by norm_num) hodd) negative

/-- A zero is nearest to the zero of its sign. -/
theorem nearest_zero {x : Float} {negative : Bool} {exponent : Int}
    (hx : Binary.ofFloat x = .finite negative 0 exponent) {r : Ratio} (hr : r.num = 0) :
    nearest negative r = x := by
  obtain ⟨hnormal, hbits⟩ := Binary.ofFloat_finite hx
  have hexponent : exponent = -1074 := hnormal.full.resolve_right (by norm_num)
  rw [hbits, hexponent, nearest, if_pos hr]
  rfl

end SheetFormula.Decimal
