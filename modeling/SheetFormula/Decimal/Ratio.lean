/-!
# Ratios of Natural Numbers

Exact non-negative fractions, as the common ground of binary and decimal notation: every
finite double is a natural number times a power of two, every decimal is one times a power
of ten. A ratio is kept as it comes, not in lowest terms, and its denominator is meant to
be positive.

## Main statements

* `Ratio.round_within_half`: rounding moves a ratio by at most one half.
* `Ratio.even_round_of_tie`: a ratio halfway between two integers goes to the even one.
-/

namespace SheetFormula.Decimal

/-- The fraction `num / den`. -/
structure Ratio where
  num : Nat
  den : Nat

namespace Ratio

/-- The ratio times `base ^ k`, where `k` may be negative. -/
def scaleBy (base : Nat) (k : Int) (r : Ratio) : Ratio :=
  if 0 ≤ k then ⟨r.num * base.pow k.toNat, r.den⟩ else ⟨r.num, r.den * base.pow (-k).toNat⟩

/-- The largest integer that is not above the ratio. -/
def floor (r : Ratio) : Nat := r.num / r.den

/-- The **nearest integer** to the ratio, and of two equally near ones the even one. -/
def round (r : Ratio) : Nat :=
  let q := r.num / r.den
  let twice := 2 * (r.num % r.den)
  if twice < r.den then q
  else if r.den < twice then q + 1
  else q + q % 2

/-- Whether the first ratio is below the second one. -/
def below (r s : Ratio) : Bool := r.num * s.den < s.num * r.den

/-- Whether the first ratio is not above the second one. -/
def atMost (r s : Ratio) : Bool := !s.below r

/-- The number of decimal places before the point that the ratio needs: the power of ten
`p` with `10 ^ (p - 1) ≤ r < 10 ^ p`, for a positive ratio. The binary logarithms of its
two parts give `p` up to two. -/
def magnitude (r : Ratio) : Int :=
  let estimate := ((r.num.log2 : Int) - r.den.log2) * 30103 / 100000
  let enough (p : Int) : Bool := r.below ((⟨1, 1⟩ : Ratio).scaleBy 10 p)
  if enough (estimate - 1) then estimate - 1
  else if enough estimate then estimate
  else if enough (estimate + 1) then estimate + 1
  else estimate + 2

/-- Rounding moves a ratio by at most one half. -/
theorem round_within_half (r : Ratio) (h : 0 < r.den) :
    2 * r.num ≤ (2 * r.round + 1) * r.den ∧ (2 * r.round) * r.den ≤ 2 * r.num + r.den := by
  have hdiv := Nat.div_add_mod r.num r.den
  have hmod := Nat.mod_lt r.num h
  generalize hq : r.num / r.den = q at hdiv
  generalize hm : r.num % r.den = m at hdiv hmod
  have hcomm : r.den * q = q * r.den := Nat.mul_comm ..
  simp only [round, hq, hm]
  split
  · constructor <;> simp only [Nat.add_mul, Nat.mul_assoc] <;> omega
  · split
    · constructor <;> simp only [Nat.add_mul, Nat.mul_add, Nat.mul_assoc] <;> omega
    · rcases Nat.mod_two_eq_zero_or_one q with h2 | h2 <;> rw [h2] <;>
        constructor <;> simp only [Nat.add_mul, Nat.mul_add, Nat.mul_assoc] <;> omega

/-- A ratio halfway between two integers is rounded to the even one. -/
theorem even_round_of_tie (r : Ratio) (h : 2 * (r.num % r.den) = r.den) :
    r.round % 2 = 0 := by
  simp only [round, h, Nat.lt_irrefl, if_false]
  omega

end Ratio

end SheetFormula.Decimal
