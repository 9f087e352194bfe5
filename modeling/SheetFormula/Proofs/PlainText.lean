import SheetFormula.Decimal.Layout
import SheetFormula.Proofs.Shortest

/-!
# The Plain Text of a Double Read Back

The plain text of a double is a decimal: a whole part, an optional fraction and an optional
exponent. Wherever the layout puts the point, the decimal is the number of the fewest digits,
which is in the interval of the double. So the text is read as the double again.

## Main results

* `nearestDecimal_of_contains`: a decimal in the interval of a double is read as the double.
* `Written.readUnsigned?_chars`: a decimal is read from its characters.
* `Layout.exists_written`: the plain text of a size is a decimal with the value of its digits.
* `Layout.exists_written_of_finite`: **the plain text of a double is read as the double**.
-/

namespace SheetFormula.Decimal

open Text (isDigit natOfDigits natOfDigits_append natOfDigits_zeros natOfDigits_toDigits)
open Lexeme (AreDigits pointed)

/-! ### Decimals in the interval of a double -/

section Nearest

variable {significand : Nat} {exponent : Int} {r s : Ratio}

/-- Whether a ratio lies in the interval of a double depends on its value alone. -/
theorem Digits.Interval.contains_congr (hpos : 0 < significand) (hr : 0 < r.den) (hs : 0 < s.den)
    (h : r.value = s.value) (hin : (around significand exponent).contains r = true) :
    (around significand exponent).contains s = true := by
  have hpow : (2 : ℚ) ^ exponent ≠ 0 := by positivity
  have hy : ∀ t : Ratio, t.value = t.value / 2 ^ exponent * 2 ^ exponent := fun t =>
    (div_mul_cancel₀ _ hpow).symm
  rw [contains_iff hpos hr (hy r), h] at hin
  rwa [contains_iff hpos hs (hy s)]

/-- The numbers in the interval of a double lie between its least and its greatest size. -/
theorem Digits.Interval.bounds_of_contains (hnormal : Normal significand exponent)
    (hpos : 0 < significand) (hr : 0 < r.den)
    (hin : (around significand exponent).contains r = true) :
    (2 : ℚ) ^ (-1075 : ℤ) ≤ r.value ∧ r.value ≤ 2 ^ (1025 : ℤ) := by
  have hpow : (0 : ℚ) < 2 ^ exponent := by positivity
  have hy : r.value = r.value / 2 ^ exponent * 2 ^ exponent := (div_mul_cancel₀ _ hpow.ne').symm
  rw [contains_iff hpos hr hy] at hin
  have hgap := gapBelow_bounds significand exponent
  have hone : (1 : ℚ) ≤ significand := by exact_mod_cast hpos
  have hsmall : (significand : ℚ) + 1 ≤ 2 ^ (53 : ℤ) := by exact_mod_cast hnormal.small
  have hlow : 1 / 2 ≤ r.value / 2 ^ exponent := by
    split at hin
    · linarith
    · linarith
  have hhigh : r.value / 2 ^ exponent ≤ 2 ^ (53 : ℤ) := by
    split at hin
    · linarith
    · linarith
  have hleast : (2 : ℚ) ^ (-1074 : ℤ) ≤ 2 ^ exponent :=
    zpow_le_zpow_right₀ (by norm_num) hnormal.low
  have hgreatest : (2 : ℚ) ^ exponent ≤ 2 ^ (971 : ℤ) :=
    zpow_le_zpow_right₀ (by norm_num) hnormal.high
  rw [hy]
  constructor
  · have hsplit : (-1075 : ℤ) = -1 + -1074 := rfl
    calc (2 : ℚ) ^ (-1075 : ℤ) = 1 / 2 * 2 ^ (-1074 : ℤ) := by
          rw [hsplit, zpow_add₀ (by norm_num), zpow_neg_one, one_div]
      _ ≤ r.value / 2 ^ exponent * 2 ^ exponent :=
        mul_le_mul hlow hleast (by positivity) (by linarith)
  · calc r.value / 2 ^ exponent * 2 ^ exponent ≤ 2 ^ (53 : ℤ) * 2 ^ (971 : ℤ) :=
        mul_le_mul hhigh hgreatest hpow.le (by positivity)
      _ ≤ 2 ^ (1025 : ℤ) := by
        rw [← zpow_add₀ (by norm_num)]
        exact zpow_le_zpow_right₀ (by norm_num) (by norm_num)

/-- The number of digits of a coefficient bounds the number. -/
theorem bounds_of_toDigits {coefficient : Nat} (hpos : 0 < coefficient) (e : ℤ) :
    (10 : ℚ) ^ ((Nat.toDigits 10 coefficient).length + e - 1) ≤ coefficient * 10 ^ e ∧
      (coefficient : ℚ) * 10 ^ e < 10 ^ ((Nat.toDigits 10 coefficient).length + e) := by
  have hlength : 0 < (Nat.toDigits 10 coefficient).length :=
    List.length_pos_iff.mpr Nat.toDigits_ne_nil
  generalize hsize : (Nat.toDigits 10 coefficient).length = size at hlength
  have hten : (0 : ℚ) < 10 ^ e := by positivity
  have hupper : coefficient < 10 ^ size :=
    (Nat.length_toDigits_le_iff (by norm_num) hlength).mp hsize.le
  have hlower : 10 ^ (size - 1) ≤ coefficient := by
    by_cases hone : size = 1
    · rw [hone]
      exact hpos
    · by_contra hlt
      have hle := (Nat.length_toDigits_le_iff (b := 10) (k := size - 1) (by norm_num)
        (by omega)).mpr (Nat.lt_of_not_le hlt)
      omega
  constructor
  · have hexp : (size : ℤ) + e - 1 = ((size - 1 : ℕ) : ℤ) + e := by omega
    rw [hexp, zpow_add₀ (by norm_num), zpow_natCast]
    exact mul_le_mul_of_nonneg_right (by exact_mod_cast hlower) hten.le
  · rw [zpow_add₀ (by norm_num), zpow_natCast]
    exact mul_lt_mul_of_pos_right (by exact_mod_cast hupper) hten

/-- **A decimal in the interval of a double** is read as the double: the bounds on the size of a
double keep its decimals within the clamps. -/
theorem nearestDecimal_of_contains {x : Float} {negative : Bool}
    (hx : Binary.ofFloat x = .finite negative significand exponent) (hpos : 0 < significand)
    (hr : 0 < r.den) (hin : (Digits.Interval.around significand exponent).contains r = true)
    {coefficient : Nat} {e : ℤ} (hvalue : r.value = coefficient * 10 ^ e) :
    nearestDecimal negative coefficient e = x := by
  have hscaled : ((⟨coefficient, 1⟩ : Ratio).scaleBy 10 e).value = coefficient * 10 ^ e := by
    rw [Ratio.value_scaleBy (by norm_num)]
    simp [Ratio.value]
  have hden : 0 < ((⟨coefficient, 1⟩ : Ratio).scaleBy 10 e).den :=
    Ratio.den_scaleBy_pos (by norm_num) e (by norm_num)
  have hbounds := Digits.Interval.bounds_of_contains (Binary.ofFloat_finite hx).1 hpos hr hin
  rw [hvalue] at hbounds
  have hcoefficient : 0 < coefficient := by
    rw [Nat.pos_iff_ne_zero]
    rintro rfl
    have hleast : (0 : ℚ) < 2 ^ (-1075 : ℤ) := by positivity
    rw [Nat.cast_zero, zero_mul] at hbounds
    exact absurd hbounds.1 (not_le.mpr hleast)
  have hdigits := bounds_of_toDigits hcoefficient e
  have hhuge : (2 : ℚ) ^ (1075 : ℤ) ≤ 10 ^ (400 : ℤ) := by
    exact_mod_cast Ratio.two_pow_le_ten_pow (a := 400) (b := 1075) (by norm_num)
  have hlow : ¬ ((Nat.toDigits 10 coefficient).length : ℤ) + e < -400 := by
    intro hsize
    have htiny : (10 : ℚ) ^ ((Nat.toDigits 10 coefficient).length + e) ≤ 10 ^ (-400 : ℤ) :=
      zpow_le_zpow_right₀ (by norm_num) hsize.le
    have hinv : (10 : ℚ) ^ (-400 : ℤ) ≤ 2 ^ (-1075 : ℤ) := by
      rw [zpow_neg, zpow_neg]
      exact inv_anti₀ (by positivity) hhuge
    exact absurd hdigits.2 (not_lt.mpr ((htiny.trans hinv).trans hbounds.1))
  have hhigh : ¬ 400 < ((Nat.toDigits 10 coefficient).length : ℤ) + e := by
    intro hsize
    have hlarge : (10 : ℚ) ^ (400 : ℤ) ≤ 10 ^ ((Nat.toDigits 10 coefficient).length + e - 1) :=
      zpow_le_zpow_right₀ (by norm_num) (by omega)
    have hless : (2 : ℚ) ^ (1025 : ℤ) < 2 ^ (1075 : ℤ) :=
      zpow_lt_zpow_right₀ (by norm_num) (by norm_num)
    exact absurd (hless.trans_le hhuge)
      (not_lt.mpr ((hlarge.trans hdigits.1).trans hbounds.2))
  rw [nearestDecimal]
  rw [if_neg (by rintro (hzero | hsize); exacts [hcoefficient.ne' hzero, hlow hsize]),
    if_neg hhigh]
  exact nearest_of_contains hx hpos hden
    (Digits.Interval.contains_congr hpos hr hden (hvalue.trans hscaled.symm) hin)

end Nearest

/-! ### Windows of digits -/

namespace Digits

variable (d : Digits) (first : Int)

/-- A wider window is a window with the next one behind it. -/
theorem window_add (m n : Nat) :
    d.window first (m + n) = d.window first m ++ d.window (first + m) n := by
  rw [window, window, window, List.range_add, List.map_append, List.map_map]
  congr 1
  apply List.map_congr_left
  intro k _
  simp only [Function.comp_apply, Nat.cast_add, Int.add_assoc]

/-- A window where all digits are zero shows zeros. -/
theorem window_of_zeros {count : Nat} (h : ∀ k < count, d.digitAt (first + (k : ℕ)) = '0') :
    d.window first count = List.replicate count '0' := by
  refine List.eq_replicate_iff.mpr ⟨d.length_window first count, fun c hc => ?_⟩
  obtain ⟨k, hk, rfl⟩ := List.mem_map.mp hc
  exact h k (List.mem_range.mp hk)

/-- Before the digits there are zeros. -/
theorem window_before {count : Nat} (h : first + count ≤ 0) :
    d.window first count = List.replicate count '0' := by
  refine d.window_of_zeros first (fun k hk => ?_)
  rw [digitAt, if_neg (by omega)]

/-- Behind the digits there are zeros. -/
theorem window_behind {count : Nat} (h : (d.digits.length : ℤ) ≤ first) :
    d.window first count = List.replicate count '0' := by
  refine d.window_of_zeros first (fun k hk => ?_)
  rw [digitAt, if_pos (by omega), List.getD_eq_default _ _ (by omega)]

/-- The window on all the digits shows them. -/
theorem window_digits : d.window 0 d.digits.length = d.digits := by
  apply List.ext_getElem (d.length_window 0 _)
  intro i hi hi'
  simp only [window, List.getElem_map, List.getElem_range, digitAt, Int.zero_add]
  rw [if_pos (Int.natCast_nonneg i), Int.toNat_natCast, List.getD_eq_getElem _ _ hi']

/-- A window around all digits shows them with zeros on both sides. -/
theorem natOfDigits_window {count : Nat} (hfirst : first ≤ 0)
    (hlast : (d.digits.length : ℤ) ≤ first + count) :
    natOfDigits (d.window first count) =
      natOfDigits d.digits * 10 ^ (first + count - d.digits.length).toNat := by
  have hcount : count = (-first).toNat +
      (d.digits.length + (first + count - d.digits.length).toNat) := by omega
  have hstart : first + ((-first).toNat : ℤ) = 0 := by omega
  generalize hbehind : (first + count - d.digits.length).toNat = behind at hcount ⊢
  rw [hcount, window_add, window_add, d.window_before first (by omega), hstart, window_digits,
    d.window_behind _ (by omega), natOfDigits_append, natOfDigits_append, natOfDigits_zeros,
    natOfDigits_zeros, List.length_replicate, Nat.zero_mul, Nat.zero_add, Nat.add_zero]

end Digits

/-! ### Exponents -/

/-- The text of an exponent is the letter `e`, its sign and its digits. -/
theorem Layout.exponentText_spec (e : Int) : ∃ ds, AreDigits ds ∧ natOfDigits ds = e.natAbs ∧
    exponentText e = 'e' :: (if e < 0 then '-' else '+') :: ds := by
  have hds : AreDigits (Nat.toDigits 10 e.natAbs) :=
    ⟨Nat.toDigits_ne_nil, fun c hc => isDigit_of_mem_toDigits hc⟩
  by_cases hshort : (Nat.toDigits 10 e.natAbs).length < 2
  · refine ⟨'0' :: Nat.toDigits 10 e.natAbs, ⟨List.cons_ne_nil _ _, fun c hc => ?_⟩, ?_, ?_⟩
    · rcases List.mem_cons.mp hc with rfl | hc
      · rfl
      · exact hds.isDigit c hc
    · have hzero : natOfDigits ['0'] = 0 := rfl
      have happend := natOfDigits_append ['0'] (Nat.toDigits 10 e.natAbs)
      rwa [hzero, Nat.zero_mul, Nat.zero_add, natOfDigits_toDigits] at happend
    · rw [exponentText, if_pos hshort]
  · refine ⟨Nat.toDigits 10 e.natAbs, hds, natOfDigits_toDigits _, ?_⟩
    rw [exponentText, if_neg hshort]

/-- The text of an exponent is read back as the exponent. -/
theorem readExponent?_exponentText (e : Int) : readExponent? (Layout.exponentText e) = some e := by
  obtain ⟨ds, hds, hvalue, htext⟩ := Layout.exponentText_spec e
  have hempty : ds.isEmpty = false := by
    rw [List.isEmpty_eq_false_iff]
    exact hds.ne_nil
  have hall : ds.all isDigit = true := List.all_eq_true.mpr hds.isDigit
  have hletter : 'e'.toLower = 'e' := by decide
  rw [htext, readExponent?, if_neg (not_not_intro hletter)]
  by_cases hneg : e < 0
  · rw [if_pos hneg]
    simp only [splitSign, hempty, hall, hvalue]
    simp only [Bool.not_true, Bool.or_self, Bool.false_eq_true, if_false, if_true]
    congr 1
    omega
  · rw [if_neg hneg]
    simp only [splitSign, hempty, hall, hvalue]
    simp only [Bool.not_true, Bool.or_self, Bool.false_eq_true, if_false]
    congr 1
    omega

/-! ### Decimals -/

/-- A **decimal** as it is written: the digits before the point and behind it, and an
exponent if there is one. -/
structure Written where
  whole : List Char
  fraction : List Char
  exponent : Option Int

namespace Written

/-- The characters of a decimal. -/
def chars (w : Written) : List Char :=
  w.whole ++ (pointed w.fraction ++ w.exponent.elim [] Layout.exponentText)

/-- The digits of a decimal without the point. -/
def coefficient (w : Written) : Nat := natOfDigits (w.whole ++ w.fraction)

/-- The power of ten that the last digit of a decimal counts. -/
def scale (w : Written) : Int := w.exponent.getD 0 - w.fraction.length

/-- The parts of a decimal are digits. -/
structure Proper (w : Written) : Prop where
  whole : AreDigits w.whole
  fraction : ∀ c ∈ w.fraction, isDigit c = true

/-- The characters of a number begin with a digit. -/
theorem chars_cons {w : Written} (h : w.Proper) :
    ∃ d r, isDigit d = true ∧ w.chars = d :: r := by
  obtain ⟨d, r, hdr⟩ := List.exists_cons_of_ne_nil h.whole.ne_nil
  have hd : isDigit d = true := h.whole.isDigit d (hdr ▸ List.mem_cons_self)
  refine ⟨d, r ++ (pointed w.fraction ++ w.exponent.elim [] Layout.exponentText), hd, ?_⟩
  rw [chars, hdr, List.cons_append]

/-- What holds of digits, of the point, of the letter `e` and of signs holds of **all characters
of a decimal**. -/
theorem forall_mem_chars {w : Written} (h : w.Proper) {P : Char → Prop}
    (hdigit : ∀ c, isDigit c = true → P c) (hpoint : P '.') (hletter : P 'e') (hplus : P '+')
    (hminus : P '-') : ∀ c ∈ w.chars, P c := by
  have hpointed : ∀ c ∈ pointed w.fraction, P c := by
    rw [pointed]
    split
    · exact List.forall_mem_nil P
    · exact List.forall_mem_cons.mpr ⟨hpoint, fun c hc => hdigit c (h.fraction c hc)⟩
  have hexponent : ∀ c ∈ w.exponent.elim [] Layout.exponentText, P c := by
    cases w.exponent with
    | none => exact List.forall_mem_nil P
    | some e =>
        obtain ⟨ds, hds, -, htext⟩ := Layout.exponentText_spec e
        rw [Option.elim_some, htext]
        refine List.forall_mem_cons.mpr ⟨hletter, List.forall_mem_cons.mpr ⟨?_, fun c hc => ?_⟩⟩
        · split
          · exact hminus
          · exact hplus
        · exact hdigit c (hds.isDigit c hc)
  exact List.forall_mem_append.mpr ⟨fun c hc => hdigit c (h.whole.isDigit c hc),
    List.forall_mem_append.mpr ⟨hpointed, hexponent⟩⟩

/-- What stands behind the digits of a decimal is no digit. -/
theorem not_isDigit_of_exponent (exponent : Option Int) :
    ∀ c ∈ (exponent.elim [] Layout.exponentText).head?, isDigit c = false ∧ c ≠ '.' := by
  intro c hc
  cases exponent with
  | none => cases hc
  | some e =>
      obtain ⟨ds, -, -, htext⟩ := Layout.exponentText_spec e
      rw [Option.elim_some, htext] at hc
      obtain rfl : 'e' = c := Option.some.inj hc
      exact ⟨rfl, by decide⟩

/-- An exponent is read back whether it is written or left out. -/
theorem readExponent?_elim (exponent : Option Int) :
    readExponent? (exponent.elim [] Layout.exponentText) = some (exponent.getD 0) := by
  cases exponent with
  | none => rfl
  | some e => exact readExponent?_exponentText e

/-- **A decimal is read** as the double nearest to its value. -/
theorem readUnsigned?_chars {w : Written} (h : w.Proper) (negative : Bool) :
    readUnsigned? negative w.chars = some (nearestDecimal negative w.coefficient w.scale) := by
  obtain ⟨d, r, hd, hchars⟩ := chars_cons h
  have hexponent := not_isDigit_of_exponent w.exponent
  have hstop : ∀ c ∈ (pointed w.fraction ++ w.exponent.elim [] Layout.exponentText).head?,
      isDigit c = false := by
    rw [pointed]
    split
    · exact fun c hc => (hexponent c hc).1
    · intro c hc
      obtain rfl : '.' = c := Option.some.inj hc
      rfl
  have hwhole : w.whole.isEmpty = false := by
    rw [List.isEmpty_eq_false_iff]
    exact h.whole.ne_nil
  have hread := readExponent?_elim w.exponent
  rw [readUnsigned?]
  dsimp only
  rw [if_neg, if_neg]
  · rw [chars, Lexeme.takeWhile_digits h.whole.isDigit hstop,
      Lexeme.dropWhile_digits h.whole.isDigit hstop, hwhole, coefficient, scale]
    cases hfraction : w.fraction with
    | nil =>
        cases hexp : w.exponent with
        | none => rfl
        | some e =>
            obtain ⟨ds, -, -, htext⟩ := Layout.exponentText_spec e
            rw [hexp, Option.elim_some, htext] at hread
            rw [Option.elim_some, htext]
            change Option.map _ (readExponent? ('e' :: _)) = _
            rw [hread]
            rfl
    | cons f fs =>
        have hf := h.fraction
        rw [hfraction] at hf
        simp only [pointed, List.isEmpty_cons, Bool.false_eq_true, if_false, List.cons_append]
        simp only [← List.cons_append, Bool.false_and, Bool.false_eq_true, if_false,
          Lexeme.takeWhile_digits hf (fun c hc => (hexponent c hc).1),
          Lexeme.dropWhile_digits hf (fun c hc => (hexponent c hc).1), hread]
        rfl
  · rw [hchars]
    exact map_toLower_ne (Or.inl hd) (by decide) (by decide)
  · rw [hchars]
    rintro (hname | hname)
    · exact map_toLower_ne (Or.inl hd) (by decide) (by decide) hname
    · exact map_toLower_ne (Or.inl hd) (by decide) (by decide) hname

end Written

/-! ### The plain layout -/

/-- The parts of a decimal as the plain text of a double has them: a zero at the beginning
stands alone before the point, and there is a fraction or an exponent. -/
structure Written.Plain (w : Written) : Prop extends w.Proper where
  head : w.whole.head? = some '0' → w.whole = ['0']
  mixed : w.fraction ≠ [] ∨ w.exponent.isSome = true

/-- The window of digits before the point, and the one behind it. -/
theorem exists_written_of_window {d : Digits} (hd : d.Standard) (point last : Int) {first : Int}
    (hfirst : first = if point ≤ 0 then point - 1 else 0)
    (hlast : (d.digits.length : ℤ) ≤ last) (hpoint : point ≤ last)
    (exponent : Option Int) (hvalue : exponent.getD 0 + point = d.point)
    (hone : 1 < point → point = d.point) (hmixed : point < last ∨ exponent.isSome = true) :
    let w : Written := ⟨d.window first (point - first).toNat,
      d.window point (last - point).toNat, exponent⟩
    w.Plain ∧ (w.coefficient : ℚ) * 10 ^ w.scale = d.value := by
  intro w
  have hdecimal : d.AreDecimal := hd.areDigits.isDigit
  have hlength : (w.whole.length : ℤ) = point - first := by
    rw [Digits.length_window]
    split at hfirst
    · omega
    · omega
  have hbefore : 0 < w.whole.length ∧ first ≤ 0 := by
    split at hfirst
    · omega
    · omega
  have hfraction : (w.fraction.length : ℤ) = last - point := by
    rw [Digits.length_window]
    omega
  refine ⟨⟨⟨⟨List.length_pos_iff.mp hbefore.1, hdecimal.window _ _⟩, hdecimal.window _ _⟩,
    fun hhead => ?_, ?_⟩, ?_⟩
  · rcases Nat.lt_or_ge 1 w.whole.length with hlong | hshort
    · have hzero : first = 0 := by
        split at hfirst
        · omega
        · exact hfirst
      obtain ⟨c, r, hcr⟩ := List.exists_cons_of_ne_nil hd.areDigits.ne_nil
      have hstart : (d.window first (point - first).toNat).head? = d.digits.head? := by
        obtain ⟨n, hn⟩ : ∃ n, (point - first).toNat = n + 1 := ⟨(point - first).toNat - 1, by omega⟩
        rw [hn, hzero, Digits.window, List.range_succ_eq_map, List.map_cons, List.head?_cons,
          hcr, List.head?_cons, Digits.digitAt, hcr]
        rfl
      have hd1 := hd.head (hstart.symm.trans hhead)
      have hpoint1 : d.point = 1 := by rw [hd1]
      have hsame := hone (by omega)
      omega
    · obtain ⟨c, hc⟩ := List.length_eq_one_iff.mp (show w.whole.length = 1 by omega)
      rw [hc, List.head?_cons] at hhead
      rw [hc, Option.some.inj hhead]
  · rcases hmixed with hless | hexp
    · refine Or.inl (List.length_pos_iff.mp ?_)
      omega
    · exact Or.inr hexp
  · have hjoin : w.whole ++ w.fraction = d.window first (last - first).toNat := by
      have hadd := d.window_add first (point - first).toNat (last - point).toNat
      have hcount : (point - first).toNat + (last - point).toNat = (last - first).toNat := by omega
      have hstart : first + ((point - first).toNat : ℤ) = point := by omega
      rw [hcount, hstart] at hadd
      exact hadd.symm
    have hwindow := @Digits.natOfDigits_window d first (last - first).toNat hbefore.2 (by omega)
    have hcount : first + ((last - first).toNat : ℤ) = last := by omega
    have hexp : ((last - d.digits.length).toNat : ℤ) + w.scale = d.point - d.digits.length := by
      have hscale : w.scale = exponent.getD 0 - w.fraction.length := rfl
      omega
    rw [Written.coefficient, hjoin, hwindow, hcount, Digits.value, ← hexp,
      zpow_add₀ (by norm_num), zpow_natCast]
    push_cast
    ring

/-- **The plain text of a size** is a decimal with the value of its fewest digits. -/
theorem Layout.exists_written {significand : Nat} {exponent : Int} {d : Digits}
    (hd : Digits.shortest significand exponent = d) (hstandard : d.Standard) :
    ∃ w : Written, w.Plain ∧ plain.sizeText significand exponent = w.chars ∧
      (w.coefficient : ℚ) * 10 ^ w.scale = d.value := by
  have hlength : 0 < d.digits.length := List.length_pos_iff.mpr hstandard.areDigits.ne_nil
  have hdigits : plain.form.digits significand exponent = d := hd
  have hpointed : ∀ xs : List Char,
      (if xs.isEmpty && !plain.keepPoint then [] else '.' :: xs) = pointed xs := by
    intro xs
    cases xs <;> rfl
  by_cases hexp : plain.usesExponent d = true
  · have hlast : plain.lastPlace d true 1 = max (d.digits.length : ℤ) 1 := rfl
    have hwritten := exists_written_of_window hstandard 1 (max (d.digits.length : ℤ) 1) rfl
      (by omega) (by omega)
      (some (d.point - 1)) (by simp) (by omega) (Or.inr rfl)
    refine ⟨_, hwritten.1, ?_, hwritten.2⟩
    rw [sizeText]
    simp only [hdigits, hexp, if_true, hlast, hpointed, List.append_assoc]
    rfl
  · have hlast : plain.lastPlace d false d.point = max (d.digits.length : ℤ) (d.point + 1) := rfl
    have hwritten := exists_written_of_window hstandard d.point
      (max (d.digits.length : ℤ) (d.point + 1)) rfl (by omega) (by omega)
      none (by simp) (fun _ => rfl) (Or.inl (by omega))
    refine ⟨_, hwritten.1, ?_, hwritten.2⟩
    rw [Bool.not_eq_true] at hexp
    rw [sizeText]
    simp only [hdigits, hexp, Bool.false_eq_true, if_false, hlast, hpointed, List.append_assoc]
    rfl

/-- **The plain text of a finite double** is a decimal that is read as the double. -/
theorem Layout.exists_written_of_finite {x : Float} {negative : Bool} {significand : Nat}
    {exponent : Int} (hx : Binary.ofFloat x = .finite negative significand exponent) :
    ∃ w : Written, w.Plain ∧ plain.sizeText significand exponent = w.chars ∧
      nearestDecimal negative w.coefficient w.scale = x := by
  rcases Nat.eq_zero_or_pos significand with rfl | hpos
  · have hzero : Digits.shortest 0 exponent = Digits.ofCoefficient 0 0 := rfl
    obtain ⟨w, hw, htext, hvalue⟩ :=
      exists_written hzero (Digits.standard_ofCoefficient 0 0)
    refine ⟨w, hw, htext, ?_⟩
    have hten : (10 : ℚ) ^ w.scale ≠ 0 := by positivity
    rw [Digits.value_ofCoefficient, Nat.cast_zero, zero_mul, mul_eq_zero_iff_right hten] at hvalue
    rw [nearestDecimal, if_pos (Or.inl (by exact_mod_cast hvalue))]
    exact nearest_zero hx rfl
  · obtain ⟨c, e, hshortest, hin⟩ := Digits.exists_shortest (Binary.ofFloat_finite hx).1 hpos
    obtain ⟨w, hw, htext, hvalue⟩ := exists_written hshortest (Digits.standard_ofCoefficient c e)
    refine ⟨w, hw, htext, ?_⟩
    have hscaled : ((⟨c, 1⟩ : Ratio).scaleBy 10 e).value = c * 10 ^ e := by
      rw [Ratio.value_scaleBy (by norm_num)]
      simp [Ratio.value]
    rw [Digits.value_ofCoefficient, ← hscaled] at hvalue
    exact nearestDecimal_of_contains hx hpos (Ratio.den_scaleBy_pos (by norm_num) e (by norm_num))
      hin hvalue.symm

/-- The plain text of a finite double is that of its size, behind a minus sign if it has
one. -/
theorem toList_plainText {x : Float} {negative : Bool} {significand : Nat} {exponent : Int}
    (hx : Binary.ofFloat x = .finite negative significand exponent) :
    (plainText x).toList =
      (if negative then ['-'] else []) ++ Layout.plain.sizeText significand exponent := by
  simp only [plainText, Layout.text, hx, String.toList_ofList]

end SheetFormula.Decimal
