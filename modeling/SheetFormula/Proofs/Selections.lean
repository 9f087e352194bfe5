import SheetFormula.Proofs.Addresses
import SheetFormula.Proofs.UpperCase

/-!
# Selections

A selection is put into upper case before it is read as a reference, so that its letter may be
small. The upper case is that of all scripts, and so the characters beyond ASCII that have a capital
name a column too: the dotless i names that of the letter `I`, the long s that of `S`. No other
character slips in.

## Main results

* `Address.spells_upper_iff`: what a selection spells in upper case.
* `Address.readsLetters_iff`: **which selections are read by their letter**, as they should be.
* `Address.not_readsLetters_dotless`: the dotless i names a column.
-/

namespace SheetFormula

namespace Address

open Lexeme (AreDigits)
open Text (trimBlanks trim upper capital? IsStray)
open Decimal (digitLimit)

/-! ### Texts of selections -/

/-- A text **chooses** a row with digits behind a character, which white space may surround. -/
structure Chooses (text : String) (c : Char) (ds : List Char) : Prop where
  trimBlanks_eq : trimBlanks text.toList = c :: ds
  areDigits : AreDigits ds

variable {text : String} {c letter : Char} {ds : List Char}

/-- **What a selection spells** in upper case: the capital of its character, with its digits. -/
theorem spells_upper_iff : Spells (upper (trim text)) letter ds ↔
    ∃ c, Chooses text c ds ∧ capital? c = some letter := by
  have htext : (upper (trim text)).toList = (trimBlanks text.toList).flatMap Text.upperChar := by
    rw [upper, trim, String.toList_ofList, String.toList_ofList]
  constructor
  · rintro ⟨hspelled, hletter, hds⟩
    rw [htext, Text.flatMap_upperChar_eq_cons_iff hletter hds.isDigit] at hspelled
    obtain ⟨c, hc, hcapital⟩ := hspelled
    exact ⟨c, ⟨hc, hds⟩, hcapital⟩
  · rintro ⟨c, ⟨hc, hds⟩, hcapital⟩
    have hletter := Text.isCapital_of_capital? hcapital
    refine ⟨?_, hletter, hds⟩
    rw [htext, Text.flatMap_upperChar_eq_cons_iff hletter hds.isDigit]
    exact ⟨c, hc, hcapital⟩

/-- A selection by a character with a capital is **read as the reference** with this capital. -/
theorem Chooses.ofSelection_eq (h : Chooses text c ds) (hc : capital? c = some letter) :
    ofSelection text = ofRef (String.ofList (letter :: ds)) := by
  have hspells : Spells (upper (trim text)) letter ds := spells_upper_iff.mpr ⟨c, h, hc⟩
  rw [ofSelection, ← String.ofList_toList (s := upper (trim text)), hspells.toList_eq]

/-- Any other selection is **malformed**. -/
theorem ofSelection_of_not_chooses
    (h : ¬ ∃ c ds, Chooses text c ds ∧ (capital? c).isSome = true) :
    ofSelection text = .error (.fault (.invalidReference (upper (trim text)) .malformed)) := by
  refine ofRef_of_not_spells fun ⟨letter, ds, hspells⟩ => ?_
  obtain ⟨c, hc, hcapital⟩ := spells_upper_iff.mp hspells
  exact h ⟨c, ds, hc, by rw [hcapital]; rfl⟩

/-! ### Selections by letters -/

/-- A selection is **read by its letter** when a letter of either case with digits behind it is read
as the reference with the letter in upper case, and every other text is an invalid reference. -/
structure ReadsLetters (text : String) : Prop where
  accepts : ∀ c ds, Chooses text c ds → c.isAlpha = true →
    ofSelection text = ofRef (String.ofList (c.toUpper :: ds)) ∧
      (ds.length ≤ digitLimit → ∃ a, ofSelection text = .ok a)
  refuses : (¬ ∃ c ds, Chooses text c ds ∧ c.isAlpha = true) →
    ∃ ref reason, ofSelection text = .error (.fault (.invalidReference ref reason))

/-- A selection by a stray is **not read by its letter**: it is read as a reference, though it has
none. -/
theorem Chooses.not_readsLetters (h : Chooses text c ds) (hstray : IsStray c) :
    ¬ ReadsLetters text := by
  intro hreads
  have hsome : (capital? c).isSome = true := Text.isSome_capital?_iff.mpr (.inr hstray)
  obtain ⟨letter, hletter⟩ := Option.isSome_iff_exists.mp hsome
  have hnone : ¬ ∃ c ds, Chooses text c ds ∧ c.isAlpha = true := by
    rintro ⟨c', ds', h', halpha⟩
    obtain ⟨rfl, -⟩ := List.cons.inj (h.trimBlanks_eq.symm.trans h'.trimBlanks_eq)
    rw [Text.isAlpha_of_isStray hstray] at halpha
    cases halpha
  obtain ⟨ref, reason, herror⟩ := hreads.refuses hnone
  have hspells : Spells (upper (trim text)) letter ds := spells_upper_iff.mpr ⟨c, h, hletter⟩
  exact hspells.ofRef_ne_fault herror

/-- **Which selections are read by their letter**: all of them, but for those by a stray. Selections
by a letter or a stray are read as the reference with its capital, all others are malformed. -/
theorem readsLetters_iff (text : String) :
    (ReadsLetters text ↔ ¬ ∃ c ds, Chooses text c ds ∧ IsStray c) ∧
    (∀ c ds letter, Chooses text c ds → capital? c = some letter →
      ofSelection text = ofRef (String.ofList (letter :: ds))) ∧
    ((¬ ∃ c ds, Chooses text c ds ∧ (capital? c).isSome = true) →
      ofSelection text = .error (.fault (.invalidReference (upper (trim text)) .malformed))) := by
  refine ⟨⟨?_, fun hnone => ⟨?_, ?_⟩⟩, fun c ds letter h hc => h.ofSelection_eq hc,
    ofSelection_of_not_chooses⟩
  · rintro hreads ⟨c, ds, h, hstray⟩
    exact h.not_readsLetters hstray hreads
  · intro c ds h halpha
    have hcapital : capital? c = some c.toUpper := if_pos halpha
    have hspells : Spells (upper (trim text)) c.toUpper ds := spells_upper_iff.mpr ⟨c, h, hcapital⟩
    exact ⟨h.ofSelection_eq hcapital, fun hle => ⟨_, hspells.ofRef_eq_ok_iff.mpr ⟨hle, rfl⟩⟩⟩
  · intro hletters
    refine ⟨_, _, ofSelection_of_not_chooses ?_⟩
    rintro ⟨c, ds, h, hsome⟩
    obtain halpha | hstray := Text.isSome_capital?_iff.mp hsome
    · exact hletters ⟨c, ds, h, halpha⟩
    · exact hnone ⟨c, ds, h, hstray⟩

/-- **The dotless i names a column**: with a digit behind it, it is read as the letter `I` is. -/
theorem not_readsLetters_dotless :
    ofSelection "\u01311" = .ok ⟨0, 9⟩ ∧ ofRef "I1" = .ok ⟨0, 9⟩ ∧ ¬ ReadsLetters "\u01311" := by
  have hchooses : Chooses "\u01311" '\u0131' ['1'] :=
    ⟨by decide, List.cons_ne_nil _ _, List.forall_mem_singleton.mpr rfl⟩
  have href : ofRef "I1" = .ok ⟨0, 9⟩ := rfl
  exact ⟨(hchooses.ofSelection_eq rfl).trans href, href, hchooses.not_readsLetters (.inl rfl)⟩

end Address

end SheetFormula
