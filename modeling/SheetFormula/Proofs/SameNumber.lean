import SheetFormula.Proofs.Doubles

/-!
# The Same Number

There are two zeros among the doubles, which are equal as numbers, and a double that is not a
number, which is equal to nothing. Two doubles are called the same number when they are equal
or when neither is a number. Sums and products do not tell the same numbers apart, nor do
quotients by a divisor other than zero, nor comparisons.

## Main results

* `Double.same_iff`: doubles are the same number when their parts are, up to the sign of zero.
* `Double.Same.add`, `Double.Same.sub`, `Double.Same.mul`, `Double.Same.div`: **operations on
  the same numbers give the same number**.
* `Double.same_zero_sub`, `Double.same_add_zero`: what zero does in a sum or a difference.
-/

namespace SheetFormula.Double

open Float.Model (UnpackedFloat Format)
open Float.Model.UnpackedFloat (Sign)

/-! ### Near parts -/

/-- Parts are **near** each other when they are equal, or both those of a zero. -/
def Near (u v : UnpackedFloat) : Prop := u = v ∨ ∃ s t, u = .zero s ∧ v = .zero t

/-- Two doubles are **the same number** when they are equal as numbers, or neither is one. -/
def Same (x y : Float) : Prop := (x == y) = true ∨ (x.isNaN = true ∧ y.isNaN = true)

/-- Parts that are equal as numbers are near each other. -/
theorem near_of_beq {u v : UnpackedFloat} (h : u.beq v = true) : Near u v := by
  obtain ⟨-, -, hzeros⟩ := (UnpackedFloat.beq_iff_ne_notANumber_and_eq u v).mp h
  obtain heq | ⟨hu, hv⟩ | ⟨hu, hv⟩ := hzeros
  · exact Or.inl heq
  · exact Or.inr ⟨_, _, hu, hv⟩
  · exact Or.inr ⟨_, _, hu, hv⟩

/-- Doubles are compared by their parts. -/
theorem beq_eq (x y : Float) : (x == y) = (parts x).beq (parts y) := rfl

/-- A double is less than another when this is so of their parts. -/
theorem lt_iff {x y : Float} : x < y ↔ (parts x).compare (parts y) = some .lt :=
  decide_eq_true_iff.trans beq_iff_eq

/-- A double is NaN when its parts are no number. -/
theorem isNaN_iff {x : Float} : x.isNaN = true ↔ parts x = .notANumber :=
  UnpackedFloat.isNaN_iff

/-- Doubles are the same number when **their parts are near** each other. -/
theorem same_iff {x y : Float} : Same x y ↔ Near (parts x) (parts y) := by
  rw [Same, beq_eq, isNaN_iff, isNaN_iff]
  constructor
  · rintro (h | ⟨hx, hy⟩)
    · exact near_of_beq h
    · exact Or.inl (hx.trans hy.symm)
  · rintro (h | ⟨s, t, hs, ht⟩)
    · by_cases hnan : parts y = .notANumber
      · exact Or.inr ⟨h.trans hnan, hnan⟩
      · refine Or.inl ((UnpackedFloat.beq_iff_ne_notANumber_and_eq _ _).mpr ?_)
        exact ⟨h ▸ hnan, hnan, Or.inl h⟩
    · rw [hs, ht]
      exact Or.inl rfl

/-- A double is the same number as itself. -/
theorem Same.refl (x : Float) : Same x x := same_iff.mpr (Or.inl rfl)

/-- Being the same number is transitive. -/
theorem Same.trans {x y z : Float} (h : Same x y) (h' : Same y z) : Same x z := by
  rw [same_iff] at *
  obtain h | ⟨s, t, hs, ht⟩ := h
  · rwa [h]
  · obtain h' | ⟨s', t', -, ht'⟩ := h'
    · exact Or.inr ⟨s, t, hs, h' ▸ ht⟩
    · exact Or.inr ⟨s, t', hs, ht'⟩

/-- Being the same number is symmetric. -/
theorem Same.symm {x y : Float} (h : Same x y) : Same y x := by
  rw [same_iff] at *
  obtain h | ⟨s, t, hs, ht⟩ := h
  · exact Or.inl h.symm
  · exact Or.inr ⟨t, s, ht, hs⟩

/-- A double is a number when its parts are one. -/
theorem isNaN_eq_false_iff {x : Float} : x.isNaN = false ↔ parts x ≠ .notANumber := by
  rw [Bool.eq_false_iff, ne_eq, isNaN_iff]

/-- The same number is NaN or is not. -/
theorem Same.isNaN_eq {x y : Float} (h : Same x y) : x.isNaN = y.isNaN := by
  rw [Bool.eq_iff_iff, isNaN_iff, isNaN_iff]
  obtain h | ⟨s, t, hs, ht⟩ := same_iff.mp h
  · rw [h]
  · rw [hs, ht]
    exact ⟨fun h => (by cases h), fun h => (by cases h)⟩

/-! ### Operations on the same numbers -/

/-- Packing keeps parts near each other. -/
theorem Near.same {u v : UnpackedFloat} (h : Near u v) : Same (ofParts u) (ofParts v) := by
  obtain rfl | ⟨s, t, rfl, rfl⟩ := h
  · exact .refl _
  · refine same_iff.mpr (Or.inr ⟨s, t, ?_, ?_⟩)
    · cases s <;> rfl
    · cases t <;> rfl

/-- Near parts have near sums. -/
theorem Near.add {u u' v v' : UnpackedFloat} (hu : Near u u') (hv : Near v v') :
    Near (UnpackedFloat.add .binary64 u v) (UnpackedFloat.add .binary64 u' v') := by
  obtain rfl | ⟨s, s', rfl, rfl⟩ := hu
  · obtain rfl | ⟨t, t', rfl, rfl⟩ := hv
    · exact Or.inl rfl
    · cases u with
      | zero s => cases s <;> cases t <;> cases t' <;> exact Or.inr ⟨_, _, rfl, rfl⟩
      | notANumber | infinity s | finite s m e hm => exact Or.inl rfl
  · obtain rfl | ⟨t, t', rfl, rfl⟩ := hv
    · cases v with
      | zero t => cases s <;> cases s' <;> cases t <;> exact Or.inr ⟨_, _, rfl, rfl⟩
      | notANumber | infinity t | finite t n k hn => exact Or.inl rfl
    · cases s <;> cases s' <;> cases t <;> cases t' <;> exact Or.inr ⟨_, _, rfl, rfl⟩

/-- Near parts have near opposites. -/
theorem Near.neg {u v : UnpackedFloat} (h : Near u v) : Near u.neg v.neg := by
  obtain rfl | ⟨s, t, rfl, rfl⟩ := h
  · exact Or.inl rfl
  · exact Or.inr ⟨-s, -t, rfl, rfl⟩

/-- Near parts have near products. -/
theorem Near.mul {u u' v v' : UnpackedFloat} (hu : Near u u') (hv : Near v v') :
    Near (UnpackedFloat.mul .binary64 u v) (UnpackedFloat.mul .binary64 u' v') := by
  obtain rfl | ⟨s, s', rfl, rfl⟩ := hu
  · obtain rfl | ⟨t, t', rfl, rfl⟩ := hv
    · exact Or.inl rfl
    · cases u with
      | notANumber | infinity s => exact Or.inl rfl
      | zero s | finite s m e hm => exact Or.inr ⟨_, _, rfl, rfl⟩
  · obtain rfl | ⟨t, t', rfl, rfl⟩ := hv
    · cases v with
      | notANumber | infinity t => exact Or.inl rfl
      | zero t | finite t n k hn => exact Or.inr ⟨_, _, rfl, rfl⟩
    · exact Or.inr ⟨_, _, rfl, rfl⟩

/-- Only a divisor of zero hands its sign on. -/
theorem Near.div {u u' v : UnpackedFloat} (hu : Near u u') (hv : ∀ s, v ≠ .zero s) :
    Near (UnpackedFloat.div .binary64 u v) (UnpackedFloat.div .binary64 u' v) := by
  obtain rfl | ⟨s, s', rfl, rfl⟩ := hu
  · exact Or.inl rfl
  · cases v with
    | notANumber => exact Or.inl rfl
    | zero t => exact absurd rfl (hv t)
    | infinity t | finite t n k hn => exact Or.inr ⟨_, _, rfl, rfl⟩

/-- Near parts compare alike with near parts. -/
theorem Near.compare {u u' v v' : UnpackedFloat} (hu : Near u u') (hv : Near v v') :
    u.compare v = u'.compare v' := by
  obtain rfl | ⟨s, s', rfl, rfl⟩ := hu
  · obtain rfl | ⟨t, t', rfl, rfl⟩ := hv
    · rfl
    · cases u with
      | notANumber | zero s => rfl
      | infinity s | finite s m e hm => cases s <;> rfl
  · obtain rfl | ⟨t, t', rfl, rfl⟩ := hv
    · cases v with
      | notANumber | zero t => rfl
      | infinity t | finite t n k hn => cases t <;> rfl
    · rfl

namespace Same

variable {x x' y y' : Float}

/-- Opposites of the same number are the same. -/
theorem neg (hx : Same x x') : Same (-x) (-x') := by
  rw [same_iff, parts_neg, parts_neg]
  exact (same_iff.mp hx).neg

/-- **Sums of the same numbers** are the same number. -/
theorem add (hx : Same x x') (hy : Same y y') : Same (x + y) (x' + y') :=
  ((same_iff.mp hx).add (same_iff.mp hy)).same

/-- Differences of the same numbers are the same. -/
theorem sub (hx : Same x x') (hy : Same y y') : Same (x - y) (x' - y') := by
  rw [sub_eq_add_neg, sub_eq_add_neg]
  exact hx.add hy.neg

/-- **Products of the same numbers** are the same number. -/
theorem mul (hx : Same x x') (hy : Same y y') : Same (x * y) (x' * y') :=
  ((same_iff.mp hx).mul (same_iff.mp hy)).same

/-- Equality does not tell the same numbers apart. -/
theorem beq (hx : Same x x') (hy : Same y y') : (x == y) = (x' == y') := by
  rw [beq_eq, beq_eq, UnpackedFloat.beq, UnpackedFloat.beq,
    (same_iff.mp hx).compare (same_iff.mp hy)]

/-- The order does not tell the same numbers apart. -/
theorem lt (hx : Same x x') (hy : Same y y') : x < y ↔ x' < y' := by
  rw [lt_iff, lt_iff, (same_iff.mp hx).compare (same_iff.mp hy)]

end Same

/-! ### Zeros -/

/-- Zero has the parts of the positive zero. -/
theorem parts_zero : parts 0 = .zero .positive := rfl

/-- A number or an infinity without a minus sign is not below zero. -/
theorem Unsigned.not_lt_zero {x : Float} (h : Unsigned (parts x)) : ¬ x < 0 := by
  rw [lt_iff, parts_zero]
  generalize parts x = u at h
  obtain ⟨hnumber, habs⟩ := h
  rw [← habs]
  cases u with
  | notANumber => exact absurd rfl hnumber
  | infinity s => exact nofun
  | zero s => exact nofun
  | finite s m e hm => exact nofun

/-- A double with unsigned parts is not NaN. -/
theorem Unsigned.isNaN_eq_false {x : Float} (h : Unsigned (parts x)) : x.isNaN = false := by
  rw [Bool.eq_false_iff]
  exact fun hnan => h.1 (isNaN_iff.mp hnan)

/-- A double is equal to zero when its parts are those of a zero. -/
theorem beq_zero_iff {x : Float} : (x == 0) = true ↔ ∃ s, parts x = .zero s := by
  constructor
  · intro h
    obtain h | ⟨s, -, hs, -⟩ := near_of_beq h
    · exact ⟨.positive, h⟩
    · exact ⟨s, hs⟩
  · rintro ⟨s, hs⟩
    rw [beq_eq, hs, parts_zero]
    rfl

/-- The opposite is zero exactly when the number is. -/
theorem neg_beq_zero (x : Float) : (-x == 0) = (x == 0) := by
  rw [Bool.eq_iff_iff, beq_zero_iff, beq_zero_iff, parts_neg]
  cases parts x <;> simp [UnpackedFloat.neg]

/-- What does not equal zero is no zero of either sign. -/
theorem parts_ne_zero {x : Float} (h : (x == 0) = false) (s : Sign) : parts x ≠ .zero s := by
  intro hs
  rw [beq_zero_iff.mpr ⟨s, hs⟩] at h
  cases h

/-- **Quotients of the same numbers** by a divisor other than zero are the same number. -/
theorem Same.div {x x' y y' : Float} (hx : Same x x') (hy : Same y y') (hne : (y == 0) = false) :
    Same (x / y) (x' / y') := by
  obtain h | ⟨s, -, hs, -⟩ := same_iff.mp hy
  · rw [div_eq, div_eq, ← h]
    exact ((same_iff.mp hx).div (parts_ne_zero hne)).same
  · exact absurd hs (parts_ne_zero hne s)

/-- A number other than zero, taken from zero, is its negative. -/
theorem zero_sub_of_ne {x : Float} (h : (x == 0) = false) : 0 - x = -x := by
  have hsub : UnpackedFloat.sub .binary64 (.zero .positive) (parts x) = (parts x).neg := by
    have hne := parts_ne_zero h
    cases hx : parts x with
    | zero s => exact absurd hx (hne s)
    | notANumber | infinity s | finite s m e hm => rfl
  rw [sub_eq, parts_zero, hsub, ofParts_neg, ofParts_parts]

/-- Subtracting from zero gives the opposite. -/
theorem same_zero_sub (x : Float) : Same (0 - x) (-x) := by
  cases h : x == 0 with
  | false =>
      rw [zero_sub_of_ne h]
      exact .refl _
  | true =>
      obtain ⟨s, hs⟩ := beq_zero_iff.mp h
      refine same_iff.mpr (Or.inr ⟨.positive, -s, ?_, ?_⟩)
      · rw [sub_eq, parts_zero, hs]
        cases s <;> rfl
      · rw [parts_neg, hs]
        rfl

/-- Zero changes no sum but that with another zero. -/
theorem add_zero_of_ne {x : Float} (h : (x == 0) = false) : x + 0 = x := by
  have hadd : UnpackedFloat.add .binary64 (parts x) (.zero .positive) = parts x := by
    have hne := parts_ne_zero h
    cases hx : parts x with
    | zero s => exact absurd hx (hne s)
    | notANumber | infinity s | finite s m e hm => rfl
  rw [add_eq, parts_zero, hadd, ofParts_parts]

/-- Adding zero changes no number. -/
theorem same_add_zero (x : Float) : Same (x + 0) x := by
  cases h : x == 0 with
  | false =>
      rw [add_zero_of_ne h]
      exact .refl _
  | true =>
      obtain ⟨s, hs⟩ := beq_zero_iff.mp h
      refine same_iff.mpr (Or.inr ⟨.positive, s, ?_, hs⟩)
      rw [add_eq, parts_zero, hs]
      cases s <;> rfl

/-- In a sum with a number other than zero, the sign of a zero is lost. -/
theorem add_eq_of_beq_zero {x y : Float} (hx : (x == 0) = true) (hy : (y == 0) = false) :
    x + y = y := by
  obtain ⟨s, hs⟩ := beq_zero_iff.mp hx
  have hadd : UnpackedFloat.add .binary64 (.zero s) (parts y) = parts y := by
    have hne := parts_ne_zero hy
    cases hy : parts y with
    | zero t => exact absurd hy (hne t)
    | notANumber | infinity t | finite t m e hm => rfl
  rw [add_eq, hs, hadd, ofParts_parts]

/-- A zero between two numbers changes nothing, unless the second one is a zero. -/
theorem add_zero_add {x y : Float} (hy : (y == 0) = false) : x + 0 + y = x + y := by
  cases h : x == 0 with
  | false => rw [add_zero_of_ne h]
  | true =>
      have hsum : (x + 0 == 0) = true := by
        rw [(same_add_zero x).beq (.refl 0), h]
      rw [add_eq_of_beq_zero hsum hy, add_eq_of_beq_zero h hy]

end SheetFormula.Double
