import SheetFormula.Decimal.Read
import SheetFormula.Proofs.Nearest
import SheetFormula.Proofs.NumberText

/-!
# The Fewest Digits Read Back

The digits of a double are those of the first decimal grid on which a neighbour of the double
lies in its interval. Should none of seventeen grids have one, the grid of eighteen digits is
taken, which is so narrow that its nearest number is always in the interval. So the digits
name a number that is nearest to the double, and reading them gives the double back.

## Main results

* `Digits.value_ofCoefficient`: the digits of a coefficient times a power of ten are that number.
* `Digits.exists_shortest`: **the fewest digits lie in the interval of their double**.
-/

namespace SheetFormula

open Text (isDigit natOfDigits)
open Lexeme (AreDigits pointed)

/-! ### Numbers by their digits -/

namespace Text

/-- Reading on from a number shifts it by the digits that follow. -/
theorem foldl_digits (cs : List Char) (n : Nat) :
    cs.foldl (fun n c => n * 10 + digitOf c) n = n * 10 ^ cs.length + natOfDigits cs := by
  induction cs generalizing n with
  | nil => simp [natOfDigits]
  | cons c r ih =>
      have hcons : natOfDigits (c :: r) = digitOf c * 10 ^ r.length + natOfDigits r := by
        rw [natOfDigits, List.foldl_cons, ih]
        ring
      rw [List.foldl_cons, ih, hcons, List.length_cons]
      ring

/-- Digits count more the more of them follow. -/
theorem natOfDigits_append (cs ds : List Char) :
    natOfDigits (cs ++ ds) = natOfDigits cs * 10 ^ ds.length + natOfDigits ds := by
  rw [natOfDigits, List.foldl_append, foldl_digits]
  rfl

/-- So many digits write a number below that power of ten. -/
theorem natOfDigits_lt {ds : List Char} (h : ∀ c ∈ ds, isDigit c = true) :
    natOfDigits ds < 10 ^ ds.length := by
  induction ds using List.reverseRecOn with
  | nil => decide
  | append_singleton ds c ih =>
      have hds := ih fun d hd => h d (List.mem_append_left _ hd)
      have hc := digitOf_lt (h c (List.mem_append_right _ (List.mem_singleton_self c)))
      rw [natOfDigits_concat, List.length_append, List.length_singleton, Nat.pow_succ]
      omega

/-- Zeros write zero. -/
theorem natOfDigits_zeros (n : Nat) : natOfDigits (List.replicate n '0') = 0 := by
  induction n with
  | zero => rfl
  | succ n ih =>
      rw [List.replicate_succ', natOfDigits_append, ih]
      rfl

/-- The digits of a number are read as the number. -/
theorem natOfDigits_toDigits (n : Nat) : natOfDigits (Nat.toDigits 10 n) = n := by
  have hfold : natOfDigits (Nat.toDigits 10 n) = Nat.ofDigitChars 10 (Nat.toDigits 10 n) 0 := by
    simp only [natOfDigits, Nat.ofDigitChars, digitOf, Nat.mul_comm]
  rw [hfold, Nat.ofDigitChars_ten_toDigits]

/-- The digits of a positive number do not begin with a zero. -/
theorem head?_toDigits_ne {n : Nat} (hn : n ≠ 0) : (Nat.toDigits 10 n).head? ≠ some '0' := by
  induction n using Nat.strong_induction_on with
  | _ n ih =>
      rcases Nat.lt_or_ge n 10 with hlt | hge
      · rw [Nat.toDigits_of_lt_base hlt]
        have hdigit : ∀ m < 10, m ≠ 0 → [m.digitChar].head? ≠ some '0' := by decide
        exact hdigit n hlt hn
      · rw [Nat.toDigits_of_base_le (by norm_num) hge, List.head?_append_of_ne_nil _
          Nat.toDigits_ne_nil]
        exact ih (n / 10) (by omega) (by omega)

end Text

namespace Decimal

open Text

/-! ### The value of digits -/

namespace Digits

/-- The number that a sequence of digits is. -/
def value (d : Digits) : ℚ := natOfDigits d.digits * 10 ^ (d.point - d.digits.length)

/-- What is left of digits without the zeros at their end. -/
theorem exists_zeros (cs : List Char) : ∃ n, cs =
    (cs.reverse.dropWhile (· == '0')).reverse ++ List.replicate n '0' := by
  have hzeros : ∀ c ∈ cs.reverse.takeWhile (· == '0'), c = '0' := by
    intro c hc
    have himp := List.mem_takeWhile_imp (p := (· == '0')) hc
    exact beq_iff_eq.mp himp
  have hreplicate := List.eq_replicate_of_mem hzeros
  have hsplit := List.takeWhile_append_dropWhile (p := (· == '0')) (l := cs.reverse)
  refine ⟨(cs.reverse.takeWhile (· == '0')).length, ?_⟩
  calc cs = (cs.reverse.takeWhile (· == '0') ++ cs.reverse.dropWhile (· == '0')).reverse := by
        rw [hsplit, List.reverse_reverse]
    _ = (cs.reverse.dropWhile (· == '0')).reverse ++
          List.replicate (cs.reverse.takeWhile (· == '0')).length '0' := by
        rw [List.reverse_append, hreplicate, List.reverse_replicate, List.length_replicate]

/-- The digits of a coefficient times a power of ten are that number. -/
theorem value_ofCoefficient (coefficient : Nat) (exponent : Int) :
    (ofCoefficient coefficient exponent).value = coefficient * 10 ^ exponent := by
  rw [ofCoefficient]
  split
  · rename_i hzero
    have hdigits : natOfDigits ['0'] = 0 := rfl
    simp [value, hzero, hdigits]
  · obtain ⟨n, hn⟩ := exists_zeros (Nat.toDigits 10 coefficient)
    simp only [value]
    generalize ((Nat.toDigits 10 coefficient).reverse.dropWhile (· == '0')).reverse = ds at hn ⊢
    have hnat : coefficient = natOfDigits ds * 10 ^ n := by
      rw [← natOfDigits_toDigits coefficient, hn, natOfDigits_append, natOfDigits_zeros,
        List.length_replicate, Nat.add_zero]
    have hlength : (Nat.toDigits 10 coefficient).length = ds.length + n := by
      rw [hn, List.length_append, List.length_replicate]
    have hexp : exponent + ((ds.length + n : ℕ) : ℤ) - ds.length = exponent + n := by
      push_cast
      ring
    have hcast : (coefficient : ℚ) = natOfDigits ds * 10 ^ n := by exact_mod_cast hnat
    rw [hlength, hexp, zpow_add₀ (by norm_num), zpow_natCast, hcast]
    ring

/-- Digits in their standard form: a zero at the beginning stands alone before the point. -/
structure Standard (d : Digits) : Prop where
  areDigits : AreDigits d.digits
  head : d.digits.head? = some '0' → d = ⟨['0'], 1⟩

/-- The digits of a coefficient are in standard form. -/
theorem standard_ofCoefficient (coefficient : Nat) (exponent : Int) :
    (ofCoefficient coefficient exponent).Standard := by
  rw [ofCoefficient]
  split
  · refine ⟨⟨List.cons_ne_nil _ _, fun c hc => ?_⟩, fun _ => rfl⟩
    obtain rfl := List.mem_singleton.mp hc
    rfl
  · rename_i hne
    obtain ⟨n, hn⟩ := exists_zeros (Nat.toDigits 10 coefficient)
    have hhead := head?_toDigits_ne hne
    have hdigit : ∀ c ∈ Nat.toDigits 10 coefficient, isDigit c = true := fun c hc =>
      isDigit_of_mem_toDigits hc
    have hnil := Nat.toDigits_ne_nil (b := 10) (n := coefficient)
    dsimp only
    generalize (Nat.toDigits 10 coefficient).length = length
    generalize ((Nat.toDigits 10 coefficient).reverse.dropWhile (· == '0')).reverse = ds at hn ⊢
    rw [hn] at hhead hdigit hnil
    have hds : ds ≠ [] := by
      rintro rfl
      cases n with
      | zero => exact hnil rfl
      | succ n => exact hhead rfl
    rw [List.head?_append_of_ne_nil _ hds] at hhead
    exact ⟨⟨hds, fun c hc => hdigit c (List.mem_append_left _ hc)⟩,
      fun hzero => absurd hzero hhead⟩

/-! ### The fewest digits -/

/-- A neighbour on a grid that is taken reads as the double. -/
theorem contains_of_onGrid {i : Interval} {r : Ratio} {exponent : Int} {c : Nat}
    (h : onGrid i r exponent = some c) :
    i.contains ((⟨c, 1⟩ : Ratio).scaleBy 10 exponent) = true := by
  have hround : ∀ s : Ratio, s.round = s.floor ∨ s.round = s.floor + 1 := by
    intro s
    simp only [Ratio.round, Ratio.floor]
    split
    · exact Or.inl rfl
    · split
      · exact Or.inr rfl
      · omega
  rw [onGrid] at h
  dsimp only at h
  split at h
  · rename_i hbelow habove
    obtain rfl := Option.some.inj h
    rcases hround (r.scaleBy 10 (-exponent)) with heq | heq
    · rwa [heq]
    · rwa [heq]
  · rename_i hbelow habove
    obtain rfl := Option.some.inj h
    exact hbelow
  · rename_i hbelow habove
    obtain rfl := Option.some.inj h
    exact habove
  · cases h

/-- The first grid has a number in the interval, or it is the last grid of all. -/
theorem firstGrid_cases (i : Interval) (r : Ratio) (magnitude : Int) (fuel : Nat) (count : Int) :
    ∃ c e, firstGrid i r magnitude fuel count = ofCoefficient c e ∧
      (i.contains ((⟨c, 1⟩ : Ratio).scaleBy 10 e) = true ∨
        e = magnitude - (count + fuel) ∧ c = (r.scaleBy 10 (-e)).round) := by
  induction fuel generalizing count with
  | zero =>
      refine ⟨_, _, rfl, Or.inr ⟨by simp, ?_⟩⟩
      rw [neg_sub]
  | succ fuel ih =>
      rw [firstGrid]
      cases hgrid : onGrid i r (magnitude - count) with
      | some c => exact ⟨c, _, rfl, Or.inl (contains_of_onGrid hgrid)⟩
      | none =>
          obtain ⟨c, e, heq, hor⟩ := ih (count + 1)
          refine ⟨c, e, heq, hor.imp_right (fun hlast => ⟨?_, hlast.2⟩)⟩
          rw [hlast.1]
          push_cast
          ring

/-- The size of a finite double is moderate. -/
theorem moderate_ofBinary {significand : Nat} {exponent : Int}
    (hnormal : Normal significand exponent) : (Ratio.ofBinary significand exponent).Moderate := by
  have hsmall := hnormal.small
  have hlow := hnormal.low
  have hhigh := hnormal.high
  have hlog : ∀ {n k : Nat}, n < 2 ^ k → n.log2 ≤ k := by
    intro n k hn
    by_cases hzero : n = 0
    · simp [hzero]
    · exact ((Nat.log2_lt hzero).mpr hn).le
  rw [Ratio.Moderate, Ratio.ofBinary, Ratio.scaleBy]
  split
  · have hnum : (significand * Nat.pow 2 exponent.toNat).log2 ≤ 53 + exponent.toNat := by
      apply hlog
      rw [Nat.pow_add]
      exact Nat.mul_lt_mul_of_pos_right hsmall (Nat.two_pow_pos _)
    have hden : Nat.log2 1 = 0 := by decide
    dsimp only
    omega
  · have hnum : significand.log2 ≤ 53 := hlog hsmall
    have hden : (1 * Nat.pow 2 (-exponent).toNat).log2 = (-exponent).toNat := by
      rw [Nat.one_mul, Nat.pow_eq, Nat.log2_two_pow]
    dsimp only
    omega

/-- **The fewest digits** of a double other than zero are a coefficient and an exponent of ten
whose number lies in the interval of the double. At eighteen digits the nearest number is close
enough. -/
theorem exists_shortest {significand : Nat} {exponent : Int}
    (hnormal : Normal significand exponent) (hpos : 0 < significand) :
    ∃ c e, shortest significand exponent = ofCoefficient c e ∧
      (Interval.around significand exponent).contains ((⟨c, 1⟩ : Ratio).scaleBy 10 e) = true := by
  rw [shortest, if_neg hpos.ne']
  dsimp only
  generalize hr : Ratio.ofBinary significand exponent = r
  have hvalue : r.value = significand * 2 ^ exponent := hr ▸ Ratio.value_ofBinary _ _
  have hden : 0 < r.den := hr ▸ Ratio.den_ofBinary_pos _ _
  have hmoderate : r.Moderate := hr ▸ moderate_ofBinary hnormal
  obtain ⟨c, e, heq, hcontains | ⟨he, hc⟩⟩ := firstGrid_cases
    (Interval.around significand exponent) r r.magnitude 17 1
  · exact ⟨c, e, heq, hcontains⟩
  refine ⟨c, e, heq, ?_⟩
  have hten : (0 : ℚ) < 10 ^ e := by positivity
  have htwo : (0 : ℚ) < 2 ^ exponent := by positivity
  have hscaled : (r.scaleBy 10 (-e)).value = r.value / 10 ^ e := by
    rw [Ratio.value_scaleBy (by norm_num), zpow_neg, div_eq_mul_inv]
    norm_cast
  have hround : |r.value / 10 ^ e - c| ≤ 1 / 2 := by
    have hstep := Ratio.abs_value_sub_round_le
      (@Ratio.den_scaleBy_pos 10 (by norm_num) (-e) r hden)
    rwa [hscaled, ← hc] at hstep
  have hgrid : (10 : ℚ) ^ e * 10 ^ 17 ≤ r.value := by
    have hnum : r.num ≠ 0 := by
      intro hzero
      have hvaluePos : 0 < r.value := by
        rw [hvalue]
        positivity
      rw [Ratio.value, hzero, Nat.cast_zero, zero_div] at hvaluePos
      exact lt_irrefl _ hvaluePos
    have hmagnitude := Ratio.pow_magnitude_le hnum hden hmoderate
    have hexp : r.magnitude - 1 = e + 17 := by
      rw [he]
      push_cast
      ring
    rwa [hexp, zpow_add₀ (by norm_num)] at hmagnitude
  have hsmall : (significand : ℚ) < 2 ^ 53 := by exact_mod_cast hnormal.small
  have hnear : |(c : ℚ) * 10 ^ e / 2 ^ exponent - significand| < 1 / 4 := by
    have hdiff : (c : ℚ) * 10 ^ e / 2 ^ exponent - significand =
        -((r.value / 10 ^ e - c) * (10 ^ e / 2 ^ exponent)) := by
      rw [hvalue]
      field_simp
      ring
    have hratio : (10 : ℚ) ^ e / 2 ^ exponent * (10 : ℚ) ^ 17 < 2 ^ 53 := by
      rw [hvalue, ← div_le_iff₀ htwo] at hgrid
      have hcomm : (10 : ℚ) ^ e / 2 ^ exponent * (10 : ℚ) ^ 17 =
          10 ^ e * 10 ^ 17 / 2 ^ exponent := by
        rw [div_mul_eq_mul_div]
      rw [hcomm]
      exact lt_of_le_of_lt hgrid hsmall
    rw [hdiff, abs_neg, abs_mul, abs_of_pos (div_pos hten htwo)]
    calc |r.value / 10 ^ e - c| * (10 ^ e / 2 ^ exponent)
        ≤ 1 / 2 * (10 ^ e / 2 ^ exponent) :=
          mul_le_mul_of_nonneg_right hround (div_pos hten htwo).le
      _ < 1 / 4 := by linarith
  refine Interval.contains_of_near hpos
    (Ratio.den_scaleBy_pos (by norm_num) e (by norm_num)) ?_ hnear
  rw [div_mul_cancel₀ _ htwo.ne', Ratio.value_scaleBy (by norm_num)]
  simp [Ratio.value]

end Digits

end Decimal

end SheetFormula
