import SheetFormula.Datum
import SheetFormula.Proofs.JsonSteps

/-!
# Values That Are Read Can Be Shown

Two things stand in the way of writing out a value: an integer beyond the digit limit, which has no
text, and a text with halves of characters, which has none of characters. A reader with the digit
limit gives no integer beyond it. So every value that it reads can be shown, with its texts between
quotes, and it has a text of its own unless it is a text with halves of characters.

## Main results

* `Json.canBeShown_of_parse`: **what is read can be shown**.
* `Json.isSome_text?_iff`: which of the values that can be shown have a text.
-/

namespace SheetFormula

namespace Json

open Text (isDigit natOfDigits natOfDigits_lt)
open Decimal (digitLimit writable)

variable {v : Json LooseText} {fuel : Nat}

/-! ### Values that can be shown -/

/-- A value that **can be shown**: no integer in it is beyond the digit limit. -/
def CanBeShown (v : Json LooseText) : Prop := (Datum.ofLoose v).shown?.isSome = true

/-- A list can be shown when its items can. -/
theorem canBeShown_list_iff {items : List (Json LooseText)} :
    CanBeShown (.list items) ↔ ∀ j ∈ items, CanBeShown j := by
  have hitems : (Datum.shownList? (Datum.ofLooseList items)).isSome = true ↔
      ∀ j ∈ items, CanBeShown j := by
    induction items with
    | nil => exact iff_of_true rfl fun _ h => absurd h List.not_mem_nil
    | cons j r ih =>
        rw [Datum.ofLooseList, Datum.shownList?, List.forall_mem_cons, ← ih, CanBeShown]
        cases (Datum.ofLoose j).shown? with
        | none => exact iff_of_false Bool.false_ne_true fun h => absurd h.1 Bool.false_ne_true
        | some s => cases Datum.shownList? (Datum.ofLooseList r) <;> simp
  rw [CanBeShown, Datum.ofLoose, Datum.shown?, Option.isSome_map, hitems]

/-- A record can be shown when the values of its fields can. -/
theorem canBeShown_record_iff {fields : List (LooseText × Json LooseText)} :
    CanBeShown (.record fields) ↔ ∀ f ∈ fields, CanBeShown f.2 := by
  have hfields : (Datum.shownFields? (Datum.ofLooseFields fields)).isSome = true ↔
      ∀ f ∈ fields, CanBeShown f.2 := by
    induction fields with
    | nil => exact iff_of_true rfl fun _ h => absurd h List.not_mem_nil
    | cons f r ih =>
        rw [Datum.ofLooseFields, Datum.shownFields?, List.forall_mem_cons, ← ih, CanBeShown,
          Datum.shown?]
        cases (Datum.ofLoose f.2).shown? with
        | none => exact iff_of_false Bool.false_ne_true fun h => absurd h.1 Bool.false_ne_true
        | some s => cases Datum.shownFields? (Datum.ofLooseFields r) <;> simp
  rw [CanBeShown, Datum.ofLoose, Datum.shown?, Option.isSome_map, hfields]

/-- An integer can be shown when it can be written. -/
theorem canBeShown_whole {i : Int} (h : writable i = true) : CanBeShown (.whole i) := by
  rw [CanBeShown, Datum.ofLoose, Datum.shown?, Number.text?, if_pos h]
  rfl

/-- A record keeps that its values can be shown when one is put that can. -/
theorem canBeShown_put {fields : List (LooseText × Json LooseText)}
    (h : ∀ f ∈ fields, CanBeShown f.2) (hv : CanBeShown v) (name : LooseText) :
    ∀ f ∈ put name v fields, CanBeShown f.2 := by
  induction fields with
  | nil => exact List.forall_mem_singleton.mpr hv
  | cons f r ih =>
      rw [List.forall_mem_cons] at h
      rw [put]
      split
      · exact List.forall_mem_cons.mpr ⟨hv, h.2⟩
      · exact List.forall_mem_cons.mpr ⟨h.1, ih h.2⟩

/-- The value of a field is one of those of the record. -/
theorem canBeShown_of_lookup {fields : List (LooseText × Json LooseText)}
    (h : CanBeShown (.record fields)) {name : LooseText} (hv : lookup name fields = some v) :
    CanBeShown v := by
  rw [lookup, Option.map_eq_some_iff] at hv
  obtain ⟨f, hfind, rfl⟩ := hv
  exact canBeShown_record_iff.mp h f (List.mem_of_find?_eq_some hfind)

/-- **Which values have a text**: those that can be shown, apart from a text with halves of
characters. -/
theorem isSome_text?_iff (h : CanBeShown v) :
    (Datum.ofLoose v).text?.isSome = true ↔ ∀ s, v = .text s → ∃ t, s = .whole t := by
  cases v with
  | text s =>
      change s.string?.isSome = true ↔ _
      simp only [text.injEq, forall_eq']
      cases s with
      | whole t => exact iff_of_true rfl ⟨t, rfl⟩
      | torn letters h => exact iff_of_false Bool.false_ne_true fun ⟨_, ht⟩ => nomatch ht
  | null | bool b | whole i | real x | list items | record fields =>
      exact iff_of_true h fun _ hs => nomatch hs

/-! ### What is read -/

/-- So many digits as the limit lets through write an integer that can be written. -/
theorem writable_natOfDigits {ds : List Char} (hds : ∀ c ∈ ds, isDigit c = true)
    (hlimit : ds.length ≤ digitLimit) (negative : Bool) :
    writable (if negative then -(natOfDigits ds : Int) else natOfDigits ds) = true := by
  have habs : (if negative then -(natOfDigits ds : Int) else natOfDigits ds).natAbs =
      natOfDigits ds := by
    cases negative with
    | false => exact Int.natAbs_natCast _
    | true => exact (Int.natAbs_neg _).trans (Int.natAbs_natCast _)
  rw [writable, decide_eq_true_iff, habs]
  generalize digitLimit = limit at hlimit ⊢
  calc natOfDigits ds < 10 ^ ds.length := natOfDigits_lt hds
    _ ≤ 10 ^ limit := Nat.pow_le_pow_right (by decide) hlimit

/-- A number that is read can be shown. -/
theorem canBeShown_of_number {cs rest : List Char}
    (h : number (some digitLimit) cs = .ok (v, rest)) : CanBeShown v := by
  obtain ⟨negative, unsigned, -, -, ⟨x, rfl⟩ | ⟨hlong, rfl⟩⟩ := of_number_eq_ok h
  · rfl
  · rw [Option.any_some, decide_eq_false_iff_not, not_lt] at hlong
    exact canBeShown_whole
      (writable_natOfDigits (fun _ => isDigit_of_mem_wholeDigits) hlong negative)

/-- What a name stands for can be shown, and so can a number. -/
theorem canBeShown_of_scalar {cs rest : List Char}
    (h : scalar (some digitLimit) cs = .ok (v, rest)) : CanBeShown v := by
  rw [scalar] at h
  split at h
  · rename_i out hnamed
    obtain rfl := Except.ok.inj h
    rw [named?] at hnamed
    obtain ⟨⟨word, w⟩, hmem, hafter⟩ := List.exists_of_findSome?_eq_some hnamed
    obtain ⟨_, -, heq⟩ := Option.map_eq_some_iff.mp hafter
    obtain rfl := (Prod.mk.inj heq).1
    have hnames : ∀ p ∈ names, CanBeShown p.2 := by
      simp only [names, List.forall_mem_cons]
      exact ⟨rfl, rfl, rfl, rfl, rfl, rfl, fun _ h => absurd h List.not_mem_nil⟩
    exact hnames _ hmem
  · exact canBeShown_of_number h

/-- **One step of the parser** reads what can be shown when the steps below it do. -/
theorem canBeShown_of_value (fuel : Nat) :
    (∀ cs v rest, value (some digitLimit) fuel cs = .ok (v, rest) → CanBeShown v) ∧
    (∀ cs items rest, elements (some digitLimit) fuel cs = .ok (items, rest) →
      ∀ j ∈ items, CanBeShown j) ∧
    (∀ known cs fields rest, (∀ f ∈ known, CanBeShown f.2) →
      members (some digitLimit) fuel known cs = .ok (fields, rest) →
        ∀ f ∈ fields, CanBeShown f.2) := by
  induction fuel with
  | zero =>
      refine ⟨fun cs v rest h => ?_, fun cs items rest h => ?_, fun known cs fields rest _ h => ?_⟩
      · cases h
      · cases h
      · cases h
  | succ fuel ih =>
      obtain ⟨ihvalue, ihelements, ihmembers⟩ := ih
      refine ⟨fun cs v rest h => ?_, fun cs items rest h => ?_,
        fun known cs fields rest hknown h => ?_⟩
      · rw [value_succ_iff] at h
        rcases h with ⟨r, s, rest', -, -, heq⟩ | ⟨r, -, htail⟩ | ⟨r, -, htail⟩ |
          ⟨-, -, -, hscalar⟩
        · obtain rfl := (Prod.mk.inj heq).1
          rfl
        · rcases htail with ⟨rest', -, heq⟩ | ⟨-, items, rest', hitems, heq⟩
          · obtain rfl := (Prod.mk.inj heq).1
            rfl
          · obtain rfl := (Prod.mk.inj heq).1
            exact canBeShown_list_iff.mpr (ihelements _ _ _ hitems)
        · rcases htail with ⟨rest', -, heq⟩ | ⟨-, fields, rest', hfields, heq⟩
          · obtain rfl := (Prod.mk.inj heq).1
            rfl
          · obtain rfl := (Prod.mk.inj heq).1
            exact canBeShown_record_iff.mpr
              (ihmembers _ _ _ _ (fun _ h => absurd h List.not_mem_nil) hfields)
        · exact canBeShown_of_scalar hscalar
      · rw [elements_succ_iff] at h
        obtain ⟨item, r, hitem, ⟨s, items', rest', -, hitems, heq⟩ | ⟨rest', -, heq⟩⟩ := h
        · obtain rfl := (Prod.mk.inj heq).1
          exact List.forall_mem_cons.mpr ⟨ihvalue _ _ _ hitem, ihelements _ _ _ hitems⟩
        · obtain rfl := (Prod.mk.inj heq).1
          exact List.forall_mem_singleton.mpr (ihvalue _ _ _ hitem)
      · rw [members_succ_iff] at h
        obtain ⟨r, name, r₁, r₂, v, r₃, -, -, -, hvalue, htail⟩ := h
        have hput := canBeShown_put hknown (ihvalue _ _ _ hvalue) name
        rcases htail with ⟨s, -, hfields⟩ | ⟨rest', -, heq⟩
        · exact ihmembers _ _ _ _ hput hfields
        · obtain rfl := (Prod.mk.inj heq).1
          exact hput

/-- **What is read can be shown.** -/
theorem canBeShown_of_parse {text : String} (h : parse text = .ok v) : CanBeShown v := by
  rw [parse, parseWith] at h
  split at h
  · cases h
  · rename_i v' rest hvalue
    split at h
    · obtain rfl := Except.ok.inj h
      exact (canBeShown_of_value _).1 _ _ _ hvalue
    · cases h

end Json

end SheetFormula
