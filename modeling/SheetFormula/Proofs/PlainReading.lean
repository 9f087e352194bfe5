import SheetFormula.Proofs.Doubles
import SheetFormula.Proofs.PlainText

/-!
# Plain Texts Are Read Back

The plain text of every double is read as the same double, to the sign of a zero. That of a
finite one is a decimal in its interval. That of an infinity, and of what is not a number, is
its name, and there is one double for each of these names.

## Main results

* `Binary.eq_of_infinite`, `Binary.eq_of_nan`: a name stands for **one double**.
* `read?_plainText`: **the plain text of a double is read as the double**.
-/

namespace SheetFormula.Decimal

open Double (ofParts ofBits_eq ofNat_eq_packComponents)
open Float.Model.UnpackedFloat (Sign unpack unpackSign_packComponents
  unpackExponent_packComponents unpackMantissa_packComponents)

/-! ### Doubles that are not finite -/

/-- A word with all bits of the exponent set is an infinity when those of its fraction are not,
and else no number. -/
theorem ofBits_of_full_exponent (s : Sign) {n : Nat} (hn : n / 2 ^ 52 = 2047) :
    Float.ofBits (UInt64.ofNat (s.toBitVec.toNat * 2 ^ 63 + n)) =
      ofParts (if n % 2 ^ 52 = 0 then .infinity s else .notANumber) := by
  have hexponent : BitVec.ofNat 11 (n / 2 ^ 52) = -1#11 := by
    rw [hn]
    rfl
  have hfraction : BitVec.ofNat 52 n = 0#52 ↔ n % 2 ^ 52 = 0 := by
    rw [← BitVec.toNat_inj, BitVec.toNat_ofNat, BitVec.toNat_ofNat, Nat.zero_mod]
  rw [ofBits_eq, ofNat_eq_packComponents s (by omega)]
  simp only [unpack, unpackMantissa_packComponents, unpackExponent_packComponents,
    unpackSign_packComponents, Sign.ofBitVec_toBitVec]
  rw [hexponent, if_pos rfl]
  simp only [hfraction]

/-- The sign of a double as its highest bit tells it. -/
def signOf (negative : Bool) : Sign := if negative then .negative else .positive

/-- A double that is not finite, by its sign and its fraction. -/
theorem Binary.eq_ofParts {x : Float} (hx : x.toBits.toNat / 2 ^ 52 % 2 ^ 11 = 2047) :
    x = ofParts (if x.toBits.toNat % 2 ^ 52 = 0 then
      .infinity (signOf (x.toBits.toNat / 2 ^ 63 == 1)) else .notANumber) := by
  have hbits : x = Float.ofBits (UInt64.ofNat x.toBits.toNat) := by
    rw [UInt64.ofNat_toNat, Float.ofBits_toBits]
  have hlt : x.toBits.toNat < 2 ^ 64 := UInt64.toNat_lt _
  generalize x.toBits.toNat = bits at hx hbits hlt ⊢
  have hsign : (signOf (bits / 2 ^ 63 == 1)).toBitVec.toNat = bits / 2 ^ 63 := by
    obtain hzero | hone : bits / 2 ^ 63 = 0 ∨ bits / 2 ^ 63 = 1 := by omega
    · rw [hzero]
      rfl
    · rw [hone]
      rfl
  have hsplit : bits = (signOf (bits / 2 ^ 63 == 1)).toBitVec.toNat * 2 ^ 63 + bits % 2 ^ 63 := by
    rw [hsign]
    omega
  have hfraction : bits % 2 ^ 63 % 2 ^ 52 = bits % 2 ^ 52 := by omega
  rw [hbits, ← hfraction, ← ofBits_of_full_exponent _ (by omega), ← hsplit]

/-- There are **two infinities**, one for each sign. -/
theorem Binary.eq_of_infinite {x : Float} {negative : Bool}
    (h : Binary.ofFloat x = .infinite negative) :
    x = if negative then -(1.0 / 0.0) else 1.0 / 0.0 := by
  simp only [ofFloat, Nat.pow_eq] at h
  split at h
  · rename_i hfull
    split at h
    · rename_i hzero
      cases h
      rw [eq_ofParts hfull, if_pos hzero]
      cases x.toBits.toNat / 2 ^ 63 == 1 <;> rfl
    · cases h
  · split at h <;> cases h

/-- There is **one double that is not a number**. -/
theorem Binary.eq_of_nan {x : Float} (h : Binary.ofFloat x = .nan) : x = 0.0 / 0.0 := by
  simp only [ofFloat, Nat.pow_eq] at h
  split at h
  · rename_i hfull
    split at h
    · cases h
    · rename_i hfraction
      rw [eq_ofParts hfull, if_neg hfraction]
      rfl
  · split at h <;> cases h

/-! ### Reading plain texts -/

/-- **The plain text of a double is read as the double.** -/
theorem read?_plainText (x : Float) : read? (plainText x) = some x := by
  cases hx : Binary.ofFloat x with
  | nan =>
      have htext : plainText x = "nan" := by simp only [plainText, Layout.text, hx]
      rw [htext, Binary.eq_of_nan hx, read?_of_bare (isBare_of_all rfl)]
      rfl
  | infinite negative =>
      have htext : plainText x = if negative then "-inf" else "inf" := by
        simp only [plainText, Layout.text, hx]
      rw [htext, Binary.eq_of_infinite hx]
      cases negative with
      | false =>
          rw [if_neg Bool.false_ne_true, read?_of_bare (isBare_of_all rfl)]
          rfl
      | true =>
          rw [if_pos rfl, read?_of_bare (isBare_of_all rfl)]
          rfl
  | finite negative significand exponent =>
      obtain ⟨w, hw, hchars, hnearest⟩ := Layout.exists_written_of_finite hx
      have htext := toList_plainText hx
      rw [hchars] at htext
      obtain ⟨d, r, hd, hdr⟩ := Written.chars_cons hw.toProper
      have hdecimal : ∀ c ∈ w.chars, IsBare c :=
        Written.forall_mem_chars hw.toProper (fun c hc => isBare_of_isDigit hc) (by decide)
          (by decide) (by decide) (by decide)
      have hbare : ∀ c ∈ (plainText x).toList, IsBare c := by
        rw [htext]
        refine List.forall_mem_append.mpr ⟨?_, hdecimal⟩
        cases negative <;> exact isBare_of_all rfl
      have hsign : splitSign (plainText x).toList = (negative, w.chars) := by
        rw [htext]
        cases negative with
        | false =>
            rw [hdr]
            exact splitSign_of_isPlainChar (Or.inl hd)
        | true => rfl
      rw [read?_of_bare hbare, hsign, Written.readUnsigned?_chars hw.toProper, hnearest]

end SheetFormula.Decimal
