import Mathlib
import SheetFormula.Text.Uppercase
import SheetFormula.Token.Lexeme

/-!
# Capitals and Digits in Upper Case

The upper case of all scripts has few characters of ASCII in it. A capital of ASCII is the upper
case of its letter, and two characters beyond ASCII have one as well: the dotless i and the long s.
A digit of ASCII comes of nothing but itself.

The characters beyond ASCII are put into upper case by two tables. What stands in the one becomes
several characters, none of which is a digit. What stands in the other stays beyond ASCII, but for
these two.

## Main results

* `Text.upperChar_cases`: what a character may be in upper case.
* `Text.upperChar_eq_singleton_iff`: **which characters have a capital** as their upper case.
* `Text.flatMap_upperChar_eq_cons_iff`: which texts are a capital and digits in upper case.
-/

namespace SheetFormula

namespace Text

open Lexeme (isCapital)

/-! ### Characters in upper case -/

/-- The **strays** are the characters beyond ASCII that have a capital as their upper case: the
dotless i and the long s. -/
def IsStray (c : Char) : Prop := c = '\u0131' ∨ c = '\u017f'

/-- The **capital of a character**: letters have one, and so have the strays. -/
def capital? (c : Char) : Option Char :=
  if c.isAlpha then some c.toUpper
  else if c = '\u0131' then some 'I'
  else if c = '\u017f' then some 'S'
  else none

variable {c d : Char}

/-- A character is **apart** when it is neither a capital nor a digit. -/
def Apart (c : Char) : Prop := isCapital c = false ∧ isDigit c = false

/-- A character beyond ASCII is apart. -/
theorem apart_of_le (h : 0x80 ≤ c.toNat) : Apart c := by
  constructor
  · rw [Bool.eq_false_iff]
    intro hcapital
    simp only [isCapital, Bool.and_eq_true, decide_eq_true_eq, Char.le_def,
      UInt32.le_iff_toNat_le] at hcapital
    have hle : c.toNat ≤ 90 := hcapital.2
    omega
  · rw [Bool.eq_false_iff]
    intro hdigit
    have hlt : c.toNat < 0x80 := forall_isDigit (P := fun c => c.toNat < 0x80) (by decide) hdigit
    omega

/-- The character of a code beyond ASCII is apart. -/
theorem apart_ofNat {n : Nat} (h : 0x80 ≤ n) : Apart (Char.ofNat n) := by
  by_cases hvalid : n.isValidChar
  · refine apart_of_le ?_
    rw [Char.toNat_ofNat, if_pos hvalid]
    exact h
  · have hnull : Char.ofNat n = '\x00' := by
      rw [← Char.toNat_inj, Char.toNat_ofNat, if_neg hvalid]
      rfl
    rw [hnull]
    exact ⟨rfl, rfl⟩

/-- The runs move letters from beyond ASCII to characters beyond it, but for the strays. -/
theorem caseRuns_spec : ∀ r ∈ caseRuns, r.last < 0x80 ∨ 0x80 ≤ (r.first : Int) + r.shift ∨
    (r.first = r.last ∧ (r.first = 0x131 ∨ r.first = 0x17f)) := by decide +kernel

/-- The characters that become several ones become no digits. -/
theorem caseExpansions_spec : ∀ e ∈ caseExpansions,
    2 ≤ e.2.length ∧ ∀ n ∈ e.2, isDigit (Char.ofNat n) = false := by decide +kernel

/-- A character beyond ASCII that is no stray is shifted to one that is apart. -/
theorem apart_shiftedBy (hc : 0x80 ≤ c.toNat) (hstray : ¬ IsStray c)
    (h : shiftedBy caseRuns c = some d) : Apart d := by
  rw [shiftedBy, Option.map_eq_some_iff] at h
  obtain ⟨r, hr, rfl⟩ := h
  have hrun := List.find?_some hr
  simp only [Bool.and_eq_true, decide_eq_true_eq] at hrun
  obtain ⟨⟨hfirst, hlast⟩, -⟩ := hrun
  obtain hascii | hfar | ⟨hsingle, hcode⟩ := caseRuns_spec r (List.mem_of_find?_eq_some hr)
  · omega
  · exact apart_ofNat (by omega)
  · have hi : c.toNat ≠ 0x131 := fun h => hstray (.inl (Char.toNat_inj.mp h))
    have hs : c.toNat ≠ 0x17f := fun h => hstray (.inr (Char.toNat_inj.mp h))
    omega

/-- **Beyond ASCII** a character that is no stray is one character apart in upper case, or several,
of which none is a digit. -/
theorem upperChar_of_le (hc : 0x80 ≤ c.toNat) (hstray : ¬ IsStray c) :
    (∃ d, upperChar c = [d] ∧ Apart d) ∨
      (2 ≤ (upperChar c).length ∧ ∀ d ∈ upperChar c, isDigit d = false) := by
  rw [upperChar, if_neg (Nat.not_lt.mpr hc)]
  cases hlookup : caseExpansions.lookup c.toNat with
  | some expansion =>
      obtain ⟨before, after, hsplit, -⟩ := List.lookup_eq_some_iff.mp hlookup
      have hmem : (c.toNat, expansion) ∈ caseExpansions := by
        rw [hsplit]
        exact List.mem_append_right _ List.mem_cons_self
      obtain ⟨hlength, hdigits⟩ := caseExpansions_spec _ hmem
      refine .inr ⟨?_, List.forall_mem_map.mpr hdigits⟩
      rw [List.length_map]
      exact hlength
  | none =>
      refine .inl ⟨_, rfl, ?_⟩
      cases hshift : shiftedBy caseRuns c with
      | some d => exact apart_shiftedBy hc hstray hshift
      | none => exact apart_of_le hc

/-- Among ASCII, the capitals come of the letters, and the digits of the digits. -/
theorem toUpper_spec (hc : c.toNat < 0x80) : isCapital c.toUpper = c.isAlpha ∧
    (isDigit c.toUpper = true → c.toUpper = c) := by
  have hascii : ∀ n < 0x80, isCapital (Char.ofNat n).toUpper = (Char.ofNat n).isAlpha ∧
      (isDigit (Char.ofNat n).toUpper = true → (Char.ofNat n).toUpper = Char.ofNat n) := by
    decide +kernel
  have hn := hascii c.toNat hc
  rwa [Char.ofNat_toNat] at hn

/-- A Latin letter is among the characters of ASCII. -/
theorem toNat_lt_of_isAlpha (h : c.isAlpha = true) : c.toNat < 0x80 := by
  simp only [Char.isAlpha, Char.isUpper, Char.isLower, Bool.or_eq_true, Bool.and_eq_true,
    decide_eq_true_eq, UInt32.le_iff_toNat_le, ge_iff_le] at h
  obtain ⟨-, hle⟩ | ⟨-, hle⟩ := h
  · have hcapital : c.toNat ≤ 90 := hle
    omega
  · have hsmall : c.toNat ≤ 122 := hle
    omega

/-- A stray is no Latin letter. -/
theorem isAlpha_of_isStray (h : IsStray c) : c.isAlpha = false := by
  obtain rfl | rfl := h <;> decide

/-- A character that is neither a Latin letter nor a stray has no capital among the Latin ones. -/
theorem capital?_eq_none (halpha : c.isAlpha = false) (hstray : ¬ IsStray c) :
    capital? c = none := by
  rw [capital?, halpha, if_neg Bool.false_ne_true, if_neg (hstray ∘ .inl), if_neg (hstray ∘ .inr)]

/-- The characters with a Latin capital are the Latin letters and the strays. -/
theorem isSome_capital?_iff : (capital? c).isSome = true ↔ c.isAlpha = true ∨ IsStray c := by
  constructor
  · intro h
    by_contra hnot
    obtain ⟨halpha, hstray⟩ := not_or.mp hnot
    rw [capital?_eq_none (Bool.eq_false_iff.mpr halpha) hstray] at h
    cases h
  · rintro (halpha | rfl | rfl)
    · rw [capital?, if_pos halpha]
      rfl
    · decide
    · decide

/-- The Latin capital of a character is a capital. -/
theorem isCapital_of_capital? (h : capital? c = some d) : isCapital d = true := by
  obtain halpha | rfl | rfl := isSome_capital?_iff.mp (Option.isSome_of_eq_some h)
  · rw [capital?, if_pos halpha] at h
    rw [← Option.some.inj h, (toUpper_spec (toNat_lt_of_isAlpha halpha)).1, halpha]
  · obtain rfl : 'I' = d := Option.some.inj h
    decide
  · obtain rfl : 'S' = d := Option.some.inj h
    decide

/-- A character is **one character or several in upper case**. The one is a digit of itself alone,
and a capital only if that is the capital of the character; of the several none is a digit. -/
theorem upperChar_cases (c : Char) :
    (∃ d, upperChar c = [d] ∧ (isDigit d = true → c = d) ∧
      (capital? c = some d ∨ capital? c = none ∧ isCapital d = false)) ∨
    (2 ≤ (upperChar c).length ∧ capital? c = none ∧ ∀ d ∈ upperChar c, isDigit d = false) := by
  obtain hascii | hfar := Nat.lt_or_ge c.toNat 0x80
  · obtain ⟨hcapital, hdigit⟩ := toUpper_spec hascii
    refine .inl ⟨c.toUpper, if_pos hascii, fun h => (hdigit h).symm, ?_⟩
    cases halpha : c.isAlpha with
    | true => exact .inl (if_pos halpha)
    | false =>
        have hstray : ¬ IsStray c := by
          rintro (rfl | rfl) <;> exact absurd hascii (by decide)
        exact .inr ⟨capital?_eq_none halpha hstray, hcapital.trans halpha⟩
  · by_cases hstray : IsStray c
    · obtain rfl | rfl := hstray
      · exact .inl ⟨'I', by decide, by decide, .inl (by decide)⟩
      · exact .inl ⟨'S', by decide, by decide, .inl (by decide)⟩
    · have halpha : c.isAlpha = false := by
        rw [Bool.eq_false_iff]
        exact fun h => Nat.not_lt.mpr hfar (toNat_lt_of_isAlpha h)
      have hnone := capital?_eq_none halpha hstray
      obtain ⟨d, hd, hcapital, hdigit⟩ | ⟨hlength, hdigits⟩ := upperChar_of_le hfar hstray
      · refine .inl ⟨d, hd, fun h => ?_, .inr ⟨hnone, hcapital⟩⟩
        rw [hdigit] at h
        cases h
      · exact .inr ⟨hlength, hnone, hdigits⟩

/-- **Which characters have a capital** as their upper case: the letters and the strays. -/
theorem upperChar_eq_singleton_iff (hd : isCapital d = true) :
    upperChar c = [d] ↔ capital? c = some d := by
  obtain ⟨e, he, -, hcapital | ⟨hnone, hcapital⟩⟩ | ⟨hlength, hnone, -⟩ := upperChar_cases c
  · rw [he, hcapital, List.singleton_inj, Option.some_inj]
  · rw [he, hnone, List.singleton_inj]
    refine iff_of_false ?_ (by simp)
    rintro rfl
    rw [hcapital] at hd
    cases hd
  · rw [hnone]
    refine iff_of_false (fun h => ?_) (by simp)
    rw [h, List.length_singleton] at hlength
    omega

/-- A digit comes of nothing but itself. -/
theorem eq_of_mem_upperChar (h : d ∈ upperChar c) (hd : isDigit d = true) : c = d := by
  obtain ⟨e, he, hdigit, -⟩ | ⟨-, -, hdigits⟩ := upperChar_cases c
  · rw [he, List.mem_singleton] at h
    subst h
    exact hdigit hd
  · rw [hdigits d h] at hd
    cases hd

/-- Every character has something in upper case. -/
theorem upperChar_ne_nil (c : Char) : upperChar c ≠ [] := by
  obtain ⟨d, hd, -⟩ | ⟨hlength, -⟩ := upperChar_cases c
  · rw [hd]
    exact List.cons_ne_nil d []
  · exact List.ne_nil_of_length_pos (by omega)

/-- A digit is the same in upper case. -/
theorem upperChar_of_isDigit (h : isDigit c = true) : upperChar c = [c] :=
  forall_isDigit (P := fun c => upperChar c = [c]) (by decide) h

/-! ### Texts in upper case -/

/-- Digits are the same in upper case. -/
theorem flatMap_upperChar_of_digits {cs : List Char} (h : ∀ c ∈ cs, isDigit c = true) :
    cs.flatMap upperChar = cs := by
  rw [List.flatMap_congr fun c hc => upperChar_of_isDigit (h c hc), List.flatMap_singleton']

/-- What becomes digits in upper case are digits. -/
theorem isDigit_of_flatMap_upperChar {cs : List Char}
    (h : ∀ d ∈ cs.flatMap upperChar, isDigit d = true) : ∀ c ∈ cs, isDigit c = true := by
  intro c hc
  obtain ⟨d, hd⟩ := List.exists_mem_of_ne_nil _ (upperChar_ne_nil c)
  have hdigit := h d (List.mem_flatMap.mpr ⟨c, hc, hd⟩)
  rwa [eq_of_mem_upperChar hd hdigit]

/-- A text is a **capital and digits in upper case** exactly when it is a character with this
capital and the same digits. More characters in upper case would be digits, and a digit comes of
nothing but itself. -/
theorem flatMap_upperChar_eq_cons_iff {cs ds : List Char} {letter : Char}
    (hletter : isCapital letter = true) (hds : ∀ d ∈ ds, isDigit d = true) :
    cs.flatMap upperChar = letter :: ds ↔ ∃ c, cs = c :: ds ∧ capital? c = some letter := by
  constructor
  · intro h
    obtain _ | ⟨c, r⟩ := cs
    · cases h
    rw [List.flatMap_cons] at h
    obtain ⟨d, more, hc⟩ := List.exists_cons_of_ne_nil (upperChar_ne_nil c)
    rw [hc, List.cons_append] at h
    obtain ⟨rfl, hrest⟩ := List.cons.inj h
    have hmore : more = [] := by
      cases more with
      | nil => rfl
      | cons e more =>
          have hdigit : isDigit e = true := hds e (hrest ▸ List.mem_cons_self)
          have hmem : e ∈ upperChar c := hc ▸ List.mem_cons_of_mem d List.mem_cons_self
          obtain rfl := eq_of_mem_upperChar hmem hdigit
          rw [upperChar_of_isDigit hdigit] at hc
          cases hc
    rw [hmore] at hc hrest
    have hdigits : ∀ e ∈ r, isDigit e = true := isDigit_of_flatMap_upperChar fun e he =>
      hds e (hrest ▸ he)
    refine ⟨c, ?_, (upperChar_eq_singleton_iff hletter).mp hc⟩
    rw [← hrest, List.nil_append, flatMap_upperChar_of_digits hdigits]
  · rintro ⟨c, rfl, hc⟩
    rw [List.flatMap_cons, (upperChar_eq_singleton_iff hletter).mpr hc,
      flatMap_upperChar_of_digits hds]
    rfl

end Text

end SheetFormula
