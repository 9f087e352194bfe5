import SheetFormula.Proofs.JsonStrings
import SheetFormula.Proofs.PlainText

/-!
# Numbers in JSON Read Back

An integer is written with its digits, a finite double with its plain text. What tells them
apart is the point or the exponent, one of which the text of a double always has. Where a
number ends there must be no character that would go on it.

## Main results

* `Json.number_intText`: **an integer within the digit limit is read as it was written**.
* `Json.number_realText`: **a finite double is read as it was written**.
-/

namespace SheetFormula

namespace Json

open Text (isDigit natOfDigits natOfDigits_toDigits)
open Lexeme (AreDigits pointed)
open Decimal (digitLimit writable intText readUnsigned? nearestDecimal Written Binary Layout)

/-- What ends a value: no character that would go on a number. -/
def EndsValue (rest : List Char) : Prop :=
  ∀ c ∈ rest.head?, isDigit c = false ∧ c ≠ '.' ∧ c ≠ 'e' ∧ c ≠ 'E'

variable {rest : List Char}

/-! ### The parts of a number -/

/-- The digits of an integer part end where no further digit follows. -/
theorem wholeDigits_append {ds : List Char} (hds : AreDigits ds)
    (hzero : ds.head? = some '0' → ds = ['0']) (hrest : ∀ c ∈ rest.head?, isDigit c = false) :
    wholeDigits (ds ++ rest) = (ds, rest) := by
  by_cases hhead : ds.head? = some '0'
  · rw [hzero hhead]
    rfl
  · obtain ⟨d, r, hdr⟩ := List.exists_cons_of_ne_nil hds.ne_nil
    rw [wholeDigits, Lexeme.takeWhile_digits hds.isDigit hrest,
      Lexeme.dropWhile_digits hds.isDigit hrest]
    intro s hs
    rw [hdr, List.cons_append] at hs
    rw [hdr, List.head?_cons, (List.cons.inj hs).1] at hhead
    exact hhead rfl

/-- A fraction ends where neither a digit nor a point follows. -/
theorem fractionPart_append {fs : List Char} (hfs : ∀ c ∈ fs, isDigit c = true)
    (hrest : ∀ c ∈ rest.head?, isDigit c = false ∧ c ≠ '.') :
    fractionPart (pointed fs ++ rest) = (pointed fs, rest) := by
  have hdigit : ∀ c ∈ rest.head?, isDigit c = false := fun c hc => (hrest c hc).1
  cases fs with
  | nil =>
      change fractionPart rest = ([], rest)
      rw [fractionPart]
      intro d r hdr
      exact (hrest '.' (hdr ▸ rfl)).2 rfl
  | cons f fs =>
      have hf := hfs f List.mem_cons_self
      have hr : ∀ c ∈ fs, isDigit c = true := fun c hc => hfs c (List.mem_cons_of_mem f hc)
      change fractionPart ('.' :: f :: (fs ++ rest)) = _
      rw [fractionPart, if_pos hf, Lexeme.takeWhile_digits hr hdigit,
        Lexeme.dropWhile_digits hr hdigit]
      rfl

/-- An exponent ends where no further digit follows. -/
theorem exponentPart_append (exponent : Option Int) (hrest : EndsValue rest) :
    exponentPart (exponent.elim [] Layout.exponentText ++ rest) =
      (exponent.elim [] Layout.exponentText, rest) := by
  cases exponent with
  | none =>
      change exponentPart rest = ([], rest)
      cases rest with
      | nil => rfl
      | cons c r =>
          have hletter : ¬ (c = 'e' ∨ c = 'E') :=
            not_or.mpr ⟨(hrest c rfl).2.2.1, (hrest c rfl).2.2.2⟩
          unfold exponentPart
          exact if_neg hletter
  | some e =>
      obtain ⟨ds, hds, -, htext⟩ := Layout.exponentText_spec e
      have hdigit : ∀ c ∈ rest.head?, isDigit c = false := fun c hc => (hrest c hc).1
      have htake := Lexeme.takeWhile_digits hds.isDigit hdigit
      have hdrop := Lexeme.dropWhile_digits hds.isDigit hdigit
      have hempty : ds.isEmpty = false := List.isEmpty_eq_false_iff.mpr hds.ne_nil
      rw [Option.elim_some, htext]
      by_cases he : e < 0
      · rw [if_pos he, List.cons_append, List.cons_append, exponentPart, if_pos (Or.inl rfl)]
        simp only [htake, hdrop, hempty]
        rfl
      · rw [if_neg he, List.cons_append, List.cons_append, exponentPart, if_pos (Or.inl rfl)]
        simp only [htake, hdrop, hempty]
        rfl

/-- A number with or without a minus sign. -/
def signed (negative : Bool) (cs : List Char) : List Char := if negative then '-' :: cs else cs

/-- A sign is written in front of a whole text. -/
theorem signed_append (negative : Bool) (cs ds : List Char) :
    signed negative cs ++ ds = signed negative (cs ++ ds) := by
  cases negative <;> rfl

/-- **A number is read part by part**. -/
theorem number_signed {limit : Option Nat} {negative : Bool}
    {integer fraction exponent r₁ r₂ : List Char} (hdigits : AreDigits integer)
    (hwhole : wholeDigits (integer ++ r₁) = (integer, r₁))
    (hfraction : fractionPart r₁ = (fraction, r₂))
    (hexponent : exponentPart r₂ = (exponent, rest)) :
    number limit (signed negative (integer ++ r₁)) =
      if fraction.isEmpty && exponent.isEmpty then
        if limit.any (· < integer.length) then .error (.tooLong integer.length)
        else
          .ok (.whole (if negative then -(natOfDigits integer : Int) else natOfDigits integer),
            rest)
      else match readUnsigned? negative (integer ++ fraction ++ exponent) with
        | some x => .ok (.real x, rest)
        | none => .error .malformed := by
  have hempty : integer.isEmpty = false := List.isEmpty_eq_false_iff.mpr hdigits.ne_nil
  cases negative with
  | true =>
      change number limit ('-' :: (integer ++ r₁)) = _
      rw [number]
      cases hread : readUnsigned? true (integer ++ fraction ++ exponent) <;>
        simp only [hwhole, hempty, hfraction, hexponent, hread, Bool.false_eq_true, if_false,
          if_true]
  | false =>
      change number limit (integer ++ r₁) = _
      rw [number]
      · cases hread : readUnsigned? false (integer ++ fraction ++ exponent) <;>
          simp only [hwhole, hempty, hfraction, hexponent, hread, Bool.false_eq_true, if_false]
      · intro s hs
        obtain ⟨d, r, rfl⟩ := List.exists_cons_of_ne_nil hdigits.ne_nil
        have hd := hdigits.isDigit d List.mem_cons_self
        rw [(List.cons.inj hs).1] at hd
        exact absurd hd (by decide)

/-! ### Integers and doubles -/

/-- The digits of a number do not begin with a zero, unless it is their only one. -/
theorem toDigits_eq_zero {n : Nat} (h : (Nat.toDigits 10 n).head? = some '0') :
    Nat.toDigits 10 n = ['0'] := by
  by_cases hn : n = 0
  · rw [hn, Nat.toDigits_zero]
  · exact absurd h (Text.head?_toDigits_ne hn)

/-- An integer is written as its sign and its decimal digits. -/
theorem toList_intText (i : Int) :
    (intText i).toList = signed (decide (i < 0)) (Nat.toDigits 10 i.natAbs) := by
  rw [intText, String.toList_ofList, signed]
  by_cases hi : i < 0
  · simp [hi]
  · simp [hi]

/-- An integer that can be written has no more digits than the limit. -/
theorem length_toDigits_le {i : Int} (hi : writable i = true) :
    (Nat.toDigits 10 i.natAbs).length ≤ digitLimit := by
  have hlimit : 0 < digitLimit := by decide
  rw [writable, decide_eq_true_iff, Nat.pow_eq] at hi
  generalize digitLimit = limit at hi hlimit ⊢
  exact (Nat.length_toDigits_le_iff (by norm_num) hlimit).mpr hi

/-- **An integer within the digit limit is read as it was written**. -/
theorem number_intText {i : Int} (hi : writable i = true) (hrest : EndsValue rest) :
    number (some digitLimit) ((intText i).toList ++ rest) = .ok (.whole i, rest) := by
  have hds : AreDigits (Nat.toDigits 10 i.natAbs) :=
    ⟨Nat.toDigits_ne_nil, fun c hc => Decimal.isDigit_of_mem_toDigits hc⟩
  have hwhole := wholeDigits_append hds toDigits_eq_zero (fun c hc => (hrest c hc).1)
  have hfraction : fractionPart rest = ([], rest) := @fractionPart_append rest [] (by simp)
    (fun c hc => ⟨(hrest c hc).1, (hrest c hc).2.1⟩)
  have hexponent : exponentPart rest = ([], rest) := exponentPart_append none hrest
  have hlimit : (some digitLimit).any (· < (Nat.toDigits 10 i.natAbs).length) = false := by
    rw [Option.any_some, decide_eq_false_iff_not, not_lt]
    exact length_toDigits_le hi
  rw [toList_intText, signed_append, number_signed hds hwhole hfraction hexponent, hlimit,
    natOfDigits_toDigits]
  have hsize : (if decide (i < 0) = true then -(i.natAbs : Int) else i.natAbs) = i := by
    by_cases hneg : i < 0
    · rw [if_pos (decide_eq_true hneg)]
      omega
    · rw [if_neg (by simpa using hneg)]
      omega
  rw [hsize]
  rfl

/-- **A decimal is read as the double nearest to it**. -/
theorem number_chars {w : Written} (hw : w.Plain) (negative : Bool) (limit : Option Nat)
    (hrest : EndsValue rest) :
    number limit (signed negative w.chars ++ rest) =
      .ok (.real (nearestDecimal negative w.coefficient w.scale), rest) := by
  have htail : ∀ c ∈ (w.exponent.elim [] Layout.exponentText ++ rest).head?,
      isDigit c = false ∧ c ≠ '.' := by
    cases hexp : w.exponent with
    | none => exact fun c hc => ⟨(hrest c hc).1, (hrest c hc).2.1⟩
    | some e =>
        intro c hc
        have hexponent := Written.not_isDigit_of_exponent (some e)
        obtain ⟨ds, -, -, htext⟩ := Layout.exponentText_spec e
        rw [Option.elim_some, htext] at hexponent hc
        exact hexponent c hc
  have hstop : ∀ c ∈ (pointed w.fraction ++ (w.exponent.elim [] Layout.exponentText ++ rest)).head?,
      isDigit c = false := by
    rw [pointed]
    split
    · exact fun c hc => (htail c hc).1
    · intro c hc
      obtain rfl : '.' = c := Option.some.inj hc
      rfl
  have hwhole := wholeDigits_append hw.whole hw.head hstop
  have hfraction := fractionPart_append hw.fraction htail
  have hexponent := exponentPart_append w.exponent hrest
  have hmixed : ((pointed w.fraction).isEmpty &&
      (w.exponent.elim [] Layout.exponentText).isEmpty) = false := by
    rw [Bool.and_eq_false_iff]
    rcases hw.mixed with hne | hsome
    · obtain ⟨f, fs, hfs⟩ := List.exists_cons_of_ne_nil hne
      rw [hfs]
      exact Or.inl rfl
    · obtain ⟨e, he⟩ := Option.isSome_iff_exists.mp hsome
      rw [he]
      exact Or.inr rfl
  have hchars : w.whole ++ pointed w.fraction ++ w.exponent.elim [] Layout.exponentText =
      w.chars := List.append_assoc ..
  have htext : w.chars ++ rest = w.whole ++ (pointed w.fraction ++
      (w.exponent.elim [] Layout.exponentText ++ rest)) := by
    rw [Written.chars, List.append_assoc, List.append_assoc]
  rw [signed_append, htext, number_signed hw.whole hwhole hfraction hexponent, hmixed, hchars,
    Written.readUnsigned?_chars hw.toProper]
  rfl

/-- The text of a finite double is a decimal that is read as the double. -/
theorem exists_realText {x : Float} (hx : Decimal.isFinite x = true) :
    ∃ (w : Written) (negative : Bool), w.Plain ∧
      (realText x).toList = signed negative w.chars ∧
        nearestDecimal negative w.coefficient w.scale = x := by
  rw [Decimal.isFinite] at hx
  cases hbinary : Binary.ofFloat x with
  | nan | infinite negative =>
      rw [hbinary] at hx
      cases hx
  | finite negative significand exponent =>
      obtain ⟨w, hw, htext, hnearest⟩ := Layout.exists_written_of_finite hbinary
      refine ⟨w, negative, hw, ?_, hnearest⟩
      simp only [realText, hbinary]
      rw [Decimal.toList_plainText hbinary, htext]
      cases negative <;> rfl

/-- **A finite double is read as it was written**. -/
theorem number_realText {x : Float} (hx : Decimal.isFinite x = true) (limit : Option Nat)
    (hrest : EndsValue rest) :
    number limit ((realText x).toList ++ rest) = .ok (.real x, rest) := by
  obtain ⟨w, negative, hw, htext, hnearest⟩ := exists_realText hx
  rw [htext, number_chars hw negative limit hrest, hnearest]

/-! ### The characters of numbers -/

/-- The texts of numbers: digits in front, a minus sign before them at most, and printable
characters only. -/
structure LooksNumeric (text : List Char) : Prop where
  begins : ∃ negative d r, isDigit d = true ∧ text = signed negative (d :: r)
  shown : ∀ c ∈ text, IsShown c

/-- A digit is printable. -/
theorem isShown_of_isDigit {c : Char} (hc : isDigit c = true) : IsShown c :=
  Text.forall_isDigit (P := IsShown) (by decide) hc

/-- Characters that begin with a digit look like a number, with a sign or without. -/
theorem looksNumeric_signed {cs : List Char} (hcs : ∃ d r, isDigit d = true ∧ cs = d :: r)
    (hshown : ∀ c ∈ cs, IsShown c) (negative : Bool) : LooksNumeric (signed negative cs) := by
  obtain ⟨d, r, hd, rfl⟩ := hcs
  refine ⟨⟨negative, d, r, hd, rfl⟩, ?_⟩
  cases negative with
  | false => exact hshown
  | true => exact List.forall_mem_cons.mpr ⟨by decide, hshown⟩

/-- The text of an integer looks like a number. -/
theorem looksNumeric_intText (i : Int) : LooksNumeric (intText i).toList := by
  have hds : ∀ c ∈ Nat.toDigits 10 i.natAbs, isDigit c = true :=
    fun c hc => Decimal.isDigit_of_mem_toDigits hc
  obtain ⟨d, r, hdr⟩ := List.exists_cons_of_ne_nil (@Nat.toDigits_ne_nil i.natAbs 10)
  rw [toList_intText]
  exact looksNumeric_signed ⟨d, r, hds d (hdr ▸ List.mem_cons_self), hdr⟩
    (fun c hc => isShown_of_isDigit (hds c hc)) _

/-- The text of a finite double looks like a number. -/
theorem looksNumeric_realText {x : Float} (hx : Decimal.isFinite x = true) :
    LooksNumeric (realText x).toList := by
  obtain ⟨w, negative, hw, htext, -⟩ := exists_realText hx
  have hshown : ∀ c ∈ w.chars, IsShown c :=
    Written.forall_mem_chars hw.toProper (fun c hc => isShown_of_isDigit hc) (by decide)
      (by decide) (by decide) (by decide)
  rw [htext]
  exact looksNumeric_signed (Written.chars_cons hw.toProper) hshown negative

end Json

end SheetFormula
