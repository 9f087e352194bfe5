import Mathlib
import SheetFormula.Decimal.Read

/-!
# Doubles and Their Signs

The operations on doubles take their operands apart into a sign, a significand and an
exponent, and pack the result again. Here a double is described by these parts, and the
operations by what they do to them. It follows how signs run through differences, products
and quotients, and through the reading of decimals.

## Main results

* `Double.ofParts_parts`: **a double is its parts**.
* `Double.parts_ofParts_neg`: packing leaves the sign of a number alone.
* `Double.sub_eq_add_neg`, `Double.neg_mul`, `Double.neg_div`: **the rules of signs**.
* `Decimal.readUnsigned?_true`: the number behind a minus sign is negated.
-/

namespace SheetFormula.Double

open Float.Model (UnpackedFloat Format)
open Float.Model.UnpackedFloat (Sign packComponents pack unpack unpackSign_packComponents
  unpackExponent_packComponents unpackMantissa_packComponents)

/-! ### Packing and unpacking -/

/-- Words that differ in the sign alone stand for a number and its negative. -/
theorem unpack_packComponents_neg {spec : Format} (s : Sign) (e : BitVec spec.exponentBits)
    (m : BitVec spec.mantissaBitsWithoutImplicit) :
    unpack spec (packComponents spec (-s) e m) = (unpack spec (packComponents spec s e m)).neg := by
  simp only [unpack, unpackMantissa_packComponents, unpackExponent_packComponents,
    unpackSign_packComponents, Sign.ofBitVec_toBitVec]
  split
  · split <;> rfl
  · split
    · split <;> rfl
    · rfl

/-- To pack and unpack the opposite gives the opposite. -/
theorem unpack_pack_neg (u : UnpackedFloat) :
    unpack .binary64 (pack .binary64 u.neg) = (unpack .binary64 (pack .binary64 u)).neg := by
  cases u with
  | notANumber => rfl
  | infinity s => exact unpack_packComponents_neg s _ _
  | zero s => exact unpack_packComponents_neg s _ _
  | finite s m e hm =>
      simp only [pack, Float.Model.UnpackedFloat.neg]
      split
      · exact unpack_packComponents_neg s _ _
      · split
        · exact unpack_packComponents_neg s _ _
        · exact unpack_packComponents_neg s _ _

/-! ### The parts of a double -/

/-- The **parts** of a double. -/
def parts (x : Float) : UnpackedFloat := x.toModel.unpack

/-- The double with some parts, which are rounded already. -/
def ofParts (u : UnpackedFloat) : Float := .ofModel (.pack u)

/-- **A double is its parts.** -/
theorem ofParts_parts (x : Float) : ofParts (parts x) = x := by
  obtain ⟨⟨bits, hvalid⟩⟩ := x
  have hpack := UnpackedFloat.pack_unpack_of_valid hvalid
  simp only [ofParts, parts, Float.Model.pack, Float.Model.unpack, hpack]

/-- The opposite of parts is rounded to the opposite. -/
theorem parts_ofParts_neg (u : UnpackedFloat) : parts (ofParts u.neg) = (parts (ofParts u)).neg :=
  unpack_pack_neg u

/-- The parts of the opposite are the opposite parts. -/
theorem parts_neg (x : Float) : parts (-x) = (parts x).neg := by
  have h := parts_ofParts_neg (parts x)
  rwa [ofParts_parts] at h

/-- The double of the opposite parts is the opposite one. -/
theorem ofParts_neg (u : UnpackedFloat) : ofParts u.neg = -ofParts u := by
  have h : ofParts (parts (ofParts u.neg)) = ofParts (parts (ofParts u)).neg := by
    rw [parts_ofParts_neg]
  rwa [ofParts_parts] at h

/-! ### The rules of signs -/

/-- Doubles are added by their parts. -/
theorem add_eq (x y : Float) :
    x + y = ofParts (UnpackedFloat.add .binary64 (parts x) (parts y)) := rfl

/-- Doubles are subtracted by their parts. -/
theorem sub_eq (x y : Float) :
    x - y = ofParts (UnpackedFloat.sub .binary64 (parts x) (parts y)) := rfl

/-- Doubles are multiplied by their parts. -/
theorem mul_eq (x y : Float) :
    x * y = ofParts (UnpackedFloat.mul .binary64 (parts x) (parts y)) := rfl

/-- Doubles are divided by their parts. -/
theorem div_eq (x y : Float) :
    x / y = ofParts (UnpackedFloat.div .binary64 (parts x) (parts y)) := rfl

/-- A difference is a sum with the negative. -/
theorem sub_eq_add_neg (x y : Float) : x - y = x + -y := by
  rw [sub_eq, add_eq, parts_neg]
  congr 1
  have happly : ∀ (s t : Sign) (m n : Int), s.apply m - t.apply n = s.apply m + (-t).apply n := by
    intro s t m n
    cases t with
    | negative => exact Int.sub_neg ..
    | positive => exact Int.sub_eq_add_neg
  cases parts x with
  | notANumber => rfl
  | infinity s | zero s =>
      cases parts y with
      | notANumber | infinity t | zero t | finite t n k hn => rfl
  | finite s m e hm =>
      cases parts y with
      | notANumber | infinity t | zero t => rfl
      | finite t n k hn =>
          simp only [UnpackedFloat.sub, UnpackedFloat.add, UnpackedFloat.neg, happly]

/-- Rounding goes by the size alone. -/
theorem roundWithAccuracy_neg (spec : Format) (s : Sign) (m : Nat) (e : Int)
    (a : UnpackedFloat.Accuracy) :
    UnpackedFloat.roundWithAccuracy spec (-s) m e a =
      (UnpackedFloat.roundWithAccuracy spec s m e a).neg := by
  simp only [UnpackedFloat.roundWithAccuracy]
  split <;> rfl

/-- The sign of a factor runs out of a product. -/
theorem neg_mul (x y : Float) : -x * y = -(x * y) := by
  rw [mul_eq, mul_eq, parts_neg, ← ofParts_neg]
  congr 1
  have hsign : ∀ s t : Sign, -s * t = -(s * t) := by
    intro s t
    cases s <;> cases t <;> rfl
  cases parts x with
  | notANumber => rfl
  | infinity s | zero s | finite s m e hm =>
      cases parts y with
      | notANumber => rfl
      | infinity t | zero t | finite t n k hn =>
          simp only [UnpackedFloat.mul, UnpackedFloat.neg, hsign, roundWithAccuracy_neg]

/-- The sign of a dividend runs out of a quotient. -/
theorem neg_div (x y : Float) : -x / y = -(x / y) := by
  rw [div_eq, div_eq, parts_neg, ← ofParts_neg]
  congr 1
  have hsign : ∀ s t : Sign, -s / t = -(s / t) := by
    intro s t
    cases s <;> cases t <;> rfl
  cases parts x with
  | notANumber => rfl
  | infinity s | zero s | finite s m e hm =>
      cases parts y with
      | notANumber => rfl
      | infinity t | zero t | finite t n k hn =>
          simp only [UnpackedFloat.div, UnpackedFloat.neg, hsign, roundWithAccuracy_neg]

/-! ### The sign of a decimal -/

/-- The bits of a double are its sign, its exponent and its mantissa. -/
theorem toNat_packComponents (s : Sign) (e : BitVec 11) (m : BitVec 52) :
    (packComponents .binary64 s e m).toNat =
      s.toBitVec.toNat * 2 ^ 63 + e.toNat * 2 ^ 52 + m.toNat := by
  have happend : ∀ (j k : Nat) (v : BitVec j) (w : BitVec k),
      (v ++ w).toNat = v.toNat * 2 ^ k + w.toNat := by
    intro j k v w
    rw [BitVec.toNat_append, ← Nat.shiftLeft_add_eq_or_of_lt w.isLt, Nat.shiftLeft_eq]
  change (s.toBitVec ++ e ++ m).toNat = _
  rw [happend, happend]
  omega

/-- The double of some bits has the parts that these are unpacked to. -/
theorem ofBits_eq (n : Nat) :
    Float.ofBits (UInt64.ofNat n) = ofParts (unpack .binary64 (BitVec.ofNat 64 n)) := rfl

/-- A number of 63 bits behind a sign packs an exponent and a mantissa. -/
theorem ofNat_eq_packComponents (s : Sign) {n : Nat} (hn : n < 2 ^ 63) :
    BitVec.ofNat 64 (s.toBitVec.toNat * 2 ^ 63 + n) =
      packComponents .binary64 s (BitVec.ofNat 11 (n / 2 ^ 52)) (BitVec.ofNat 52 n) := by
  have hs := s.toBitVec.isLt
  apply BitVec.eq_of_toNat_eq
  rw [toNat_packComponents, BitVec.toNat_ofNat, BitVec.toNat_ofNat, BitVec.toNat_ofNat]
  generalize s.toBitVec.toNat = k at hs ⊢
  omega

/-- The highest bit of a word is the sign of its double. -/
theorem ofBits_sign {n : Nat} (hn : n < 2 ^ 63) :
    Float.ofBits (UInt64.ofNat (2 ^ 63 + n)) = -Float.ofBits (UInt64.ofNat n) := by
  have hnegative := ofNat_eq_packComponents .negative hn
  have hpositive := ofNat_eq_packComponents .positive hn
  have hone : Sign.negative.toBitVec.toNat = 1 := rfl
  have hzero : Sign.positive.toBitVec.toNat = 0 := rfl
  rw [hone, Nat.one_mul] at hnegative
  rw [hzero, Nat.zero_mul, Nat.zero_add] at hpositive
  rw [ofBits_eq, ofBits_eq, hnegative, hpositive, ← ofParts_neg, ← unpack_packComponents_neg]
  rfl

/-- Parts are **unsigned** when they are those of a number or an infinity without a minus
sign. -/
def Unsigned (u : UnpackedFloat) : Prop := u ≠ .notANumber ∧ u.abs = u

/-- What is packed with a positive sign has no sign. -/
theorem unsigned_unpack {spec : Format} {e : BitVec spec.exponentBits}
    {m : BitVec spec.mantissaBitsWithoutImplicit} (hm : e = -1#_ → m = 0#_) :
    Unsigned (unpack spec (packComponents spec .positive e m)) := by
  simp only [unpack, unpackMantissa_packComponents, unpackExponent_packComponents,
    unpackSign_packComponents, Sign.ofBitVec_toBitVec]
  split
  · rename_i he
    rw [if_pos (hm he)]
    exact ⟨nofun, rfl⟩
  · split
    · split <;> exact ⟨nofun, rfl⟩
    · exact ⟨nofun, rfl⟩

/-- The words up to that of an infinity are unsigned: no other among them has all bits of the
exponent set, as a NaN has. -/
theorem unsigned_ofBits {n : Nat} (hn : n ≤ 2047 * 2 ^ 52) :
    Unsigned (parts (Float.ofBits (UInt64.ofNat n))) := by
  have hbits := ofNat_eq_packComponents .positive (Nat.lt_of_le_of_lt hn (by decide))
  have hzero : Sign.positive.toBitVec.toNat = 0 := rfl
  rw [hzero, Nat.zero_mul, Nat.zero_add] at hbits
  have hm : BitVec.ofNat 11 (n / 2 ^ 52) = -1#_ → BitVec.ofNat 52 n = 0#_ := by
    intro he
    have hexponent := congrArg BitVec.toNat he
    simp only [BitVec.toNat_ofNat, BitVec.reduceNeg] at hexponent
    obtain rfl : n = 2047 * 2 ^ 52 := by omega
    rfl
  have hvalid : Format.binary64.Valid (packComponents .binary64 .positive
      (BitVec.ofNat 11 (n / 2 ^ 52)) (BitVec.ofNat 52 n)) := by
    refine ⟨fun he hne => ?_⟩
    rw [unpackExponent_packComponents] at he
    rw [unpackMantissa_packComponents] at hne
    exact absurd (hm he) hne
  rw [ofBits_eq, hbits]
  change Unsigned (unpack .binary64 (pack .binary64 (unpack .binary64 _)))
  rw [UnpackedFloat.pack_unpack_of_valid hvalid]
  exact unsigned_unpack hm

end SheetFormula.Double

namespace SheetFormula.Decimal

open Double

/-- The bits of the nearest double are those of its size behind its sign. They are at most
those of an infinity. -/
theorem nearest_eq_ofBits (r : Ratio) :
    ∃ size ≤ 2047 * 2 ^ 52, ∀ negative : Bool, nearest negative r =
      Float.ofBits (UInt64.ofNat ((if negative then Nat.pow 2 63 else 0) + size)) := by
  by_cases hr : r.num = 0
  · refine ⟨0, Nat.zero_le _, fun negative => ?_⟩
    rw [nearest]
    exact if_pos hr
  · have hsize : ∃ n, ∀ negative : Bool, nearest negative r = Float.ofBits
        (UInt64.ofNat ((if negative then Nat.pow 2 63 else 0) + min n (2047 * Nat.pow 2 52))) :=
      ⟨_, fun _ => if_neg hr⟩
    obtain ⟨n, hn⟩ := hsize
    exact ⟨_, Nat.min_le_right _ _, hn⟩

/-- **The sign of the nearest double** is the given one. -/
theorem nearest_true (r : Ratio) : nearest true r = -nearest false r := by
  obtain ⟨size, hsize, hnearest⟩ := nearest_eq_ofBits r
  have hfalse : nearest false r = Float.ofBits (UInt64.ofNat size) := by
    rw [hnearest false, if_neg Bool.false_ne_true, Nat.zero_add]
  rw [hnearest true, hfalse]
  exact ofBits_sign (Nat.lt_of_le_of_lt hsize (by decide))

/-- The nearest double without a minus sign **is a number that is not below zero**, or an
infinity. -/
theorem unsigned_nearest (r : Ratio) : Unsigned (parts (nearest false r)) := by
  obtain ⟨size, hsize, hnearest⟩ := nearest_eq_ofBits r
  rw [hnearest false, if_neg Bool.false_ne_true, Nat.zero_add]
  exact unsigned_ofBits hsize

/-- The double nearest to a decimal without a sign has none. -/
theorem unsigned_nearestDecimal (coefficient : Nat) (exponent : Int) :
    Unsigned (parts (nearestDecimal false coefficient exponent)) := by
  rw [nearestDecimal]
  split
  · exact unsigned_nearest _
  · split
    · exact unsigned_nearest _
    · exact unsigned_nearest _

/-- The double nearest to the opposite decimal is the opposite one. -/
theorem nearestDecimal_true (coefficient : Nat) (exponent : Int) :
    nearestDecimal true coefficient exponent = -nearestDecimal false coefficient exponent := by
  simp only [nearestDecimal, nearest_true]
  split
  · rfl
  · split <;> rfl

/-- What a text without a sign writes is negated by a minus sign. -/
theorem readUnsigned?_true (cs : List Char) :
    readUnsigned? true cs = (readUnsigned? false cs).map (-·) := by
  simp only [readUnsigned?, nearestDecimal_true]
  split
  · rfl
  · split
    · rfl
    · rw [apply_ite (Option.map _), Option.map_none, Option.map_map]
      rfl

end SheetFormula.Decimal
