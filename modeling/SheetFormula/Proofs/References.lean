import SheetFormula.Grid.Basic
import SheetFormula.Proofs.Grammar

/-!
# Resolving References

What comes of a reference: the number in its cell, a fault that blames the reference, or a
failure of the conversion between numbers and text. The last one has two causes, a row
number of too many digits and a cell with an integer of too many digits.

## Main results

* `resolve_eq_ok_iff`: which references have a number, and which number it is.
* `resolve_cases`: every failure blames the reference, unless it is `Unconvertible`.
* `referring_resolve`: a reference with a number is longer than one character.
-/

namespace SheetFormula

/-! ### The texts of values -/

namespace Datum

/-- A value that has a text can be shown. Only a text, a date and a moment have another text
than they are shown with, and these can always be shown. -/
theorem isSome_shown?_of_text? {d : Datum} {s : String} (h : d.text? = some s) :
    d.shown?.isSome = true := by
  cases d with
  | text | date | moment => rw [shown?]; rfl
  | _ => rw [text?] at h <;> first | rw [h]; rfl | simp

end Datum

namespace Address

/-- The form of a reference: a capital and at least one digit. -/
theorem parts?_eq_some_iff {ref : String} {letter : Char} {ds : List Char} :
    parts? ref = some (letter, ds) ↔
      ref.toList = letter :: ds ∧ Lexeme.isCapital letter = true ∧ ds ≠ [] ∧
        ds.all Text.isDigit = true := by
  rw [parts?]
  cases ref.toList with
  | nil => simp
  | cons c r => simp; grind

/-- The address of a reference with a row number of at most so many digits as are read. -/
theorem ofRef_eq_ok_iff {ref : String} {a : Address} :
    ofRef ref = .ok a ↔ ∃ letter ds, parts? ref = some (letter, ds) ∧
      ds.length ≤ Decimal.digitLimit ∧ a = ⟨(Text.natOfDigits ds : Int) - 1, columnOf letter⟩ := by
  rw [ofRef]
  cases hparts : parts? ref with
  | none => simp [refuse]
  | some p =>
      obtain ⟨letter, ds⟩ := p
      by_cases hlong : Decimal.digitLimit < ds.length
      · simp only [if_pos hlong]
        constructor
        · intro h
          cases h
        · rintro ⟨_, _, heq, hle, -⟩
          obtain ⟨rfl, rfl⟩ := Prod.mk.inj (Option.some.inj heq)
          omega
      · simp only [if_neg hlong]
        constructor
        · intro h
          exact ⟨letter, ds, rfl, Nat.le_of_not_lt hlong, (Except.ok.inj h).symm⟩
        · rintro ⟨_, _, heq, -, rfl⟩
          obtain ⟨rfl, rfl⟩ := Prod.mk.inj (Option.some.inj heq)
          rfl

/-- A reference has an address, or it is malformed, or its row number is too long. -/
theorem ofRef_cases (ref : String) :
    (∃ a, ofRef ref = .ok a) ∨
    ofRef ref = .error (.fault (.invalidReference ref .malformed)) ∨
    ∃ letter ds, parts? ref = some (letter, ds) ∧ Decimal.digitLimit < ds.length ∧
      ofRef ref = .error (.numeralTooLong ds.length) := by
  rw [ofRef]
  cases hparts : parts? ref with
  | none => exact Or.inr (Or.inl rfl)
  | some p =>
      obtain ⟨letter, ds⟩ := p
      by_cases hlong : Decimal.digitLimit < ds.length
      · exact Or.inr (Or.inr ⟨letter, ds, rfl, hlong, if_pos hlong⟩)
      · exact Or.inl ⟨_, if_neg hlong⟩

end Address

/-! ### The number in a cell -/

/-- A cell with a text is the number that its text is read as. -/
theorem rawNumber?_of_text {raw : Json} {s : String} (hraw : raw ≠ .null)
    (h : (Datum.ofJson raw).text? = some s) : rawNumber? raw = .ok (cellNumber? s) := by
  cases raw with
  | null => exact absurd rfl hraw
  | _ => simp only [rawNumber?]; simp only [h]; rfl

/-- A cell whose text cannot be written gives no number. -/
theorem rawNumber?_of_text_eq_none {raw : Json} (h : (Datum.ofJson raw).text? = none) :
    rawNumber? raw = .error .unwritable := by
  cases raw with
  | null => simp [Datum.text?, Datum.shown?] at h
  | _ => simp only [rawNumber?]; simp only [h]; rfl

/-- The three ways of a raw value: it writes a number, it can be shown but writes none, or
it holds an integer that is not written. -/
theorem cellValue_cases (ref : String) (raw : Json) :
    (∃ s x, raw ≠ .null ∧ (Datum.ofJson raw).text? = some s ∧ cellNumber? s = some x ∧
      cellValue ref raw = .ok x) ∨
    (∃ shown, cellValue ref raw = .error (.fault (.invalidReference ref (.notANumber shown)))) ∨
    ((Datum.ofJson raw).text? = none ∧ cellValue ref raw = .error .unwritable) := by
  by_cases hraw : raw = .null
  · subst hraw
    exact Or.inr (Or.inl ⟨"None", by simp [cellValue, rawNumber?, Datum.shown?]; rfl⟩)
  · cases htext : (Datum.ofJson raw).text? with
    | none =>
        refine Or.inr (Or.inr ⟨rfl, ?_⟩)
        rw [cellValue, rawNumber?_of_text_eq_none htext]
        rfl
    | some s =>
        cases hx : cellNumber? s with
        | some x =>
            refine Or.inl ⟨s, x, hraw, rfl, hx, ?_⟩
            rw [cellValue, rawNumber?_of_text hraw htext, hx]
            rfl
        | none =>
            have hsome := Datum.isSome_shown?_of_text? htext
            obtain ⟨shown, hshown⟩ := Option.isSome_iff_exists.mp hsome
            refine Or.inr (Or.inl ⟨shown, ?_⟩)
            rw [cellValue, rawNumber?_of_text hraw htext, hx, hshown]
            rfl

/-! ### The number of a reference -/

/-- The **cell that a reference points to**: it lies in the grid and is not the selected
one. -/
structure PointsTo (grid : Option Grid) (ref : String) (g : Grid) (a : Address) : Prop where
  grid_eq : grid = some g
  address_eq : Address.ofRef ref = .ok a
  permitted : g.permit ref a = .ok ()

/-- A reference is **unconvertible** in a grid when its row number has too many digits to be
read, or when an integer in the way, of its cell or the number of rows, has too many digits
to be written. -/
inductive Unconvertible (grid : Option Grid) (ref : String) : Prop
  | row {g : Grid} {letter : Char} {ds : List Char} :
      grid = some g → Address.parts? ref = some (letter, ds) →
      Decimal.digitLimit < ds.length → Unconvertible grid ref
  | rowCount {g : Grid} {a : Address} :
      grid = some g → Address.ofRef ref = .ok a → g.rowCount ≤ a.row →
      Decimal.writable g.rowCount = false → Unconvertible grid ref
  | cell {g : Grid} {a : Address} :
      PointsTo grid ref g a → (Datum.ofJson (g.valueAt a)).text? = none →
      Unconvertible grid ref

/-- What the grid says of an address: it is permitted, or blamed on the reference, or too far
below a number of rows that is not written. -/
theorem Grid.permit_cases (g : Grid) (ref : String) (a : Address) :
    (a.row < g.rowCount ∧ 0 ≤ a.row ∧ g.selected ≠ some a ∧ g.permit ref a = .ok ()) ∨
    (∃ reason, g.permit ref a = .error (.fault (.invalidReference ref reason))) ∨
    (g.rowCount ≤ a.row ∧ Decimal.writable g.rowCount = false ∧
      g.permit ref a = .error .unwritable) := by
  rw [Grid.permit]
  by_cases hrow : g.rowCount ≤ a.row
  · rw [if_pos hrow]
    cases hw : Decimal.writable g.rowCount with
    | true => exact Or.inr (Or.inl ⟨_, rfl⟩)
    | false => exact Or.inr (Or.inr ⟨hrow, rfl, rfl⟩)
  · rw [if_neg hrow]
    by_cases hneg : a.row < 0
    · rw [if_pos hneg]
      exact Or.inr (Or.inl ⟨_, rfl⟩)
    · rw [if_neg hneg]
      by_cases hself : g.selected = some a
      · rw [if_pos hself]
        exact Or.inr (Or.inl ⟨_, rfl⟩)
      · rw [if_neg hself]
        exact Or.inl ⟨by omega, by omega, hself, rfl⟩

/-- A reference to an address is resolved by permission and by the value there. -/
theorem resolve_some_of_ofRef {g : Grid} {ref : String} {a : Address}
    (ha : Address.ofRef ref = .ok a) :
    resolve (some g) ref = (g.permit ref a >>= fun _ => cellValue ref (g.valueAt a)) := by
  rw [resolve, ha]
  rfl

/-- A reference that points to a cell is resolved to the value of the cell. -/
theorem resolve_of_pointsTo {grid : Option Grid} {ref : String} {g : Grid} {a : Address}
    (h : PointsTo grid ref g a) : resolve grid ref = cellValue ref (g.valueAt a) := by
  rw [h.grid_eq, resolve_some_of_ofRef h.address_eq, h.permitted]
  rfl

/-- The **three ways of a reference**: its cell writes a number, or the reference is to
blame, or it is unconvertible. -/
theorem resolve_cases (grid : Option Grid) (ref : String) :
    (∃ g a s x, PointsTo grid ref g a ∧ g.valueAt a ≠ .null ∧
      (Datum.ofJson (g.valueAt a)).text? = some s ∧ cellNumber? s = some x ∧
      resolve grid ref = .ok x) ∨
    (∃ reason, resolve grid ref = .error (.fault (.invalidReference ref reason))) ∨
    Unconvertible grid ref := by
  cases grid with
  | none => exact Or.inr (Or.inl ⟨.noGrid, rfl⟩)
  | some g =>
      obtain ⟨a, ha⟩ | hmalformed | ⟨letter, ds, hparts, hlong, -⟩ := Address.ofRef_cases ref
      · rw [resolve_some_of_ofRef ha]
        obtain ⟨-, -, -, hpermit⟩ | ⟨reason, hpermit⟩ | ⟨hrow, hw, hpermit⟩ := g.permit_cases ref a
        · have hpoints : PointsTo (some g) ref g a := ⟨rfl, ha, hpermit⟩
          rw [hpermit]
          obtain ⟨s, x, hraw, htext, hx, heq⟩ | ⟨shown, heq⟩ | ⟨htext, heq⟩ :=
            cellValue_cases ref (g.valueAt a)
          · exact Or.inl ⟨g, a, s, x, hpoints, hraw, htext, hx, heq⟩
          · exact Or.inr (Or.inl ⟨_, heq⟩)
          · exact Or.inr (Or.inr (.cell hpoints htext))
        · rw [hpermit]
          exact Or.inr (Or.inl ⟨reason, rfl⟩)
        · exact Or.inr (Or.inr (.rowCount rfl ha hrow hw))
      · refine Or.inr (Or.inl ⟨.malformed, ?_⟩)
        rw [resolve, hmalformed]
        rfl
      · exact Or.inr (Or.inr (.row rfl hparts hlong))

/-- An unconvertible reference has no number, and no fault in the formula is the reason. -/
theorem Unconvertible.resolve_eq {grid : Option Grid} {ref : String}
    (h : Unconvertible grid ref) : ∃ e, e.isFault = false ∧ resolve grid ref = .error e := by
  cases h with
  | @row g letter ds hgrid hparts hlong =>
      subst hgrid
      refine ⟨.numeralTooLong ds.length, rfl, ?_⟩
      have herr : Address.ofRef ref = .error (.numeralTooLong ds.length) := by
        rw [Address.ofRef, hparts]
        exact if_pos hlong
      rw [resolve, herr]
      rfl
  | @rowCount g a hgrid ha hrow hw =>
      subst hgrid
      refine ⟨.unwritable, rfl, ?_⟩
      have herr : g.permit ref a = .error .unwritable := by
        rw [Grid.permit, if_pos hrow, hw]
        rfl
      rw [resolve_some_of_ofRef ha, herr]
      rfl
  | @cell g a hpoints htext =>
      refine ⟨.unwritable, rfl, ?_⟩
      rw [resolve_of_pointsTo hpoints, cellValue, rawNumber?_of_text_eq_none htext]
      rfl

/-- A reference has a number exactly when its cell is permitted and writes one. -/
theorem resolve_eq_ok_iff {grid : Option Grid} {ref : String} {x : Float} :
    resolve grid ref = .ok x ↔ ∃ g a s, PointsTo grid ref g a ∧ g.valueAt a ≠ .null ∧
      (Datum.ofJson (g.valueAt a)).text? = some s ∧ cellNumber? s = some x := by
  constructor
  · intro h
    obtain ⟨g, a, s, y, hpoints, hraw, htext, hy, heq⟩ | ⟨_, herr⟩ | hun :=
      resolve_cases grid ref
    · rw [heq] at h
      obtain rfl := Except.ok.inj h
      exact ⟨g, a, s, hpoints, hraw, htext, hy⟩
    · rw [herr] at h
      cases h
    · obtain ⟨_, -, herr⟩ := hun.resolve_eq
      rw [herr] at h
      cases h
  · rintro ⟨g, a, s, hpoints, hraw, htext, hx⟩
    rw [resolve_of_pointsTo hpoints, cellValue, rawNumber?_of_text hraw htext, hx]
    rfl

/-- A reference with a number is longer than one character. -/
theorem referring_resolve (grid : Option Grid) : Referring (resolve grid) := by
  intro ref x h c hc
  obtain ⟨g, a, -, hpoints, -⟩ := resolve_eq_ok_iff.mp h
  obtain ⟨letter, ds, hparts, -, -⟩ := Address.ofRef_eq_ok_iff.mp hpoints.address_eq
  obtain ⟨hchars, -, hds, -⟩ := Address.parts?_eq_some_iff.mp hparts
  rw [hchars] at hc
  exact hds (List.cons.inj hc).2

end SheetFormula
