import SheetFormula.Computation
import SheetFormula.Proofs.Failures

/-!
# What a Reading Sees of a Grid

A reading sees a grid only through the references among its tokens, and through each of them
only the number of rows, whether the address is the selected one, and, when the address lies
in the grid and is not selected, the raw value there. So nothing else in the grid can change
the formula that is read, or the fault that is found instead.

The other way round, a reading that answers has resolved every reference among its tokens,
wherever it stands. Therefore no formula refers to the selected cell.

## Main results

* `Reading.outcome_congr`: **two resolvers that agree on the references** give one outcome.
* `Derives.exists_resolve`: every reference of a formula that is read has a number.
* `Computation.parse_select`: **no formula refers to its own cell**, and beyond that the
  selection changes nothing.
* `Computation.parse_eq_of_agreeOn`: **grids that agree where the tokens refer** give one
  outcome.
-/

namespace SheetFormula

namespace Address

/-- The address that a reference **names**, however many digits its row number has. -/
def named? (ref : String) : Option Address :=
  (parts? ref).map fun p => ⟨(Text.natOfDigits p.2 : Int) - 1, columnOf p.1⟩

/-- A reference that is read names the address that it is read as. -/
theorem named?_of_ofRef {ref : String} {a : Address} (h : ofRef ref = .ok a) :
    named? ref = some a := by
  obtain ⟨letter, ds, hparts, -, rfl⟩ := ofRef_eq_ok_iff.mp h
  rw [named?, hparts]
  rfl

/-- A reference that names an address is longer than one character. -/
theorem toList_ne_of_named? {ref : String} {a : Address} (h : named? ref = some a) (c : Char) :
    ref.toList ≠ [c] := by
  obtain ⟨⟨letter, ds⟩, hparts, -⟩ := Option.map_eq_some_iff.mp h
  obtain ⟨hchars, -, hds, -⟩ := parts?_eq_some_iff.mp hparts
  rw [hchars]
  intro heq
  exact hds (List.cons.inj heq).2

end Address

/-- A token **addresses** a cell when it is a reference that names its address. Leading zeros
of the row number make no difference. -/
def Token.Addresses (t : Token) (a : Address) : Prop :=
  t.kind = .cellReference ∧ Address.named? t.text = some a

instance (t : Token) (a : Address) : Decidable (t.Addresses a) :=
  inferInstanceAs (Decidable (t.kind = .cellReference ∧ Address.named? t.text = some a))

/-! ### Readings with resolvers that agree -/

/-- **Two resolvers that agree on the references** among some tokens give one outcome, be it
a formula or a failure. -/
theorem Reading.outcome_congr {r₁ r₂ : String → Except Failure Float} {ts : List Token}
    (h : ∀ t ∈ ts, t.kind = .cellReference → r₁ t.text = r₂ t.text) :
    (expression r₁ ts).outcome = (expression r₂ ts).outcome := by
  have hsame : SameNumbers r₁ r₂ (fun ref => r₁ ref = r₂ ref) := by
    intro ref href x
    rw [href]
  have hstep : Alike r₁ r₂ (fun ref => r₁ ref = r₂ ref) (expression r₁ ts).outcome
      (expression r₂ ts).outcome := inStep_expression hsame h
  generalize (expression r₁ ts).outcome = x at hstep ⊢
  generalize (expression r₂ ts).outcome = y at hstep ⊢
  cases hstep with
  | answered f => rfl
  | refused hf => rfl
  | stopped href h₁ h₂ =>
      rw [href, h₂] at h₁
      obtain rfl := Except.error.inj h₁
      rfl

/-! ### References of a formula that is read -/

/-- **Every reference of a formula that is read has a number.** A reference of a single
character is left out, since such a token may also stand for a sign or a comma, which joins two
runs. -/
theorem Derives.exists_resolve {resolve : String → Except Failure Float} {s : Symbol}
    {ts : List Token} {f : Formula Float} (h : Derives resolve s ts f) {t : Token} (ht : t ∈ ts)
    (hkind : t.kind = .cellReference) (hlong : ∀ c, t.text.toList ≠ [c]) :
    ∃ x, resolve t.text = .ok x := by
  have hsign : ∀ {u : Token} {c : Char}, u.text = String.ofList [c] → t ≠ u := by
    rintro u c hu rfl
    exact hlong c (by rw [hu, String.toList_ofList])
  have hjoin : ∀ {us vs : List Token} {u : Token}, t ∈ us ++ u :: vs → t ≠ u →
      t ∈ us ∨ t ∈ vs := by
    intro us vs u hmem hne
    obtain hus | hvs := List.mem_append.mp hmem
    · exact Or.inl hus
    · exact Or.inr ((List.mem_cons.mp hvs).resolve_left hne)
  have hgroup : ∀ {us : List Token}, t ∈ Token.openParen :: (us ++ [Token.closeParen]) →
      t ∈ us := by
    intro us hmem
    obtain rfl | hmem := List.mem_cons.mp hmem
    · cases hkind
    · obtain hus | hclose := List.mem_append.mp hmem
      · exact hus
      · obtain rfl := List.mem_singleton.mp hclose
        cases hkind
  induction h with
  | ofTerm _ ih | oneSlot _ ih | filledSlot _ ih | oneFactor _ ih | oneArgument _ ih =>
      exact ih ht
  | ofSum _ hu _ ihl ihr | moreSlots _ hu _ ihl ihr =>
      exact (hjoin ht (hu.elim (hsign (c := '+')) (hsign (c := '-')))).elim ihl ihr
  | moreFactors _ hu _ ihl ihr =>
      exact (hjoin ht (hu.elim (hsign (c := '*')) (hsign (c := '/')))).elim ihl ihr
  | moreArguments _ hu _ ihl ihr => exact (hjoin ht (hsign (c := ',') hu)).elim ihl ihr
  | emptySlot => cases ht
  | number hnumber _ =>
      obtain rfl := List.mem_singleton.mp ht
      rw [hkind] at hnumber
      cases hnumber
  | @reference u x _ hx =>
      obtain rfl := List.mem_singleton.mp ht
      exact ⟨x, hx⟩
  | group _ ih => exact ih (hgroup ht)
  | call hname _ _ _ ih =>
      obtain rfl | ht := List.mem_cons.mp ht
      · rw [hkind] at hname
        cases hname
      · exact ih (hgroup ht)

/-! ### Grids that agree -/

/-- Two grids have the same number for a reference when they permit the same address and have
the same raw value there. -/
theorem resolve_congr {g h : Grid} {ref : String}
    (hpermit : ∀ a, Address.ofRef ref = .ok a → g.permit ref a = h.permit ref a)
    (hvalue : ∀ a, Address.ofRef ref = .ok a → g.permit ref a = .ok () →
      g.valueAt a = h.valueAt a) :
    resolve (some g) ref = resolve (some h) ref := by
  cases ha : Address.ofRef ref with
  | error e => rw [resolve, resolve, ha]; rfl
  | ok a =>
      rw [resolve_some_of_ofRef ha, resolve_some_of_ofRef ha, ← hpermit a ha]
      cases hok : g.permit ref a with
      | error e => rfl
      | ok u => rw [hvalue a ha hok]

/-- Two grids **agree on some tokens** when they have as many rows, the same cell is selected,
and they hold the same raw values at all addresses of the tokens that lie in the grid and are
not selected. -/
structure AgreeOn (ts : List Token) (g h : Grid) : Prop where
  rowCount : g.rowCount = h.rowCount
  selected : g.selected = h.selected
  valueAt : ∀ t ∈ ts, ∀ a, t.Addresses a → 0 ≤ a.row → a.row < g.rowCount →
    g.selected ≠ some a → g.valueAt a = h.valueAt a

/-- Grids that agree on some tokens agree on fewer of them. -/
theorem AgreeOn.subset {ts us : List Token} {g h : Grid} (hagree : AgreeOn ts g h) (hus : us ⊆ ts) :
    AgreeOn us g h :=
  ⟨hagree.rowCount, hagree.selected, fun t ht => hagree.valueAt t (hus ht)⟩

namespace Grid

/-- What a grid permits depends on its number of rows and its selection alone. -/
theorem permit_congr {g h : Grid} {ref : String} {a : Address} (hrows : g.rowCount = h.rowCount)
    (hselected : g.selected = some a ↔ h.selected = some a) :
    g.permit ref a = h.permit ref a := by
  simp only [permit, hrows, hselected]

/-- An address that is permitted lies in the grid and is not selected. -/
theorem of_permit_eq_ok {g : Grid} {ref : String} {a : Address} (h : g.permit ref a = .ok ()) :
    0 ≤ a.row ∧ a.row < g.rowCount ∧ g.selected ≠ some a := by
  obtain ⟨hrow, hpos, hself, -⟩ | ⟨reason, herr⟩ | ⟨-, -, herr⟩ := g.permit_cases ref a
  · exact ⟨hpos, hrow, hself⟩
  · rw [herr] at h
    cases h
  · rw [herr] at h
    cases h

end Grid

namespace Computation

/-- **No formula refers to its own cell.** With a cell selected, tokens that address it are
never read as a formula; and when no token addresses it, the outcome is the same as without a
selection. -/
theorem parse_select (g : Grid) (s : Address) (ts : List Token) :
    ((∃ t ∈ ts, t.Addresses s) →
      ∀ f, (parse (some (g.select (some s))) ts).outcome ≠ .ok f) ∧
    ((∀ t ∈ ts, ¬ t.Addresses s) →
      (parse (some (g.select (some s))) ts).outcome =
        (parse (some (g.select none)) ts).outcome) := by
  simp only [outcome_parse]
  constructor
  · rintro ⟨t, ht, hkind, hnamed⟩ f hf
    have hderives := Reading.derives_of_expression hf
    obtain ⟨x, hx⟩ := hderives.exists_resolve ht hkind (Address.toList_ne_of_named? hnamed)
    obtain ⟨_, a, _, ⟨hgrid, ha, hpermit⟩, -⟩ := resolve_eq_ok_iff.mp hx
    obtain rfl := Option.some.inj hgrid
    obtain rfl : s = a :=
      Option.some.inj (hnamed.symm.trans (Address.named?_of_ofRef ha))
    exact (Grid.of_permit_eq_ok hpermit).2.2 rfl
  · intro hts
    refine Reading.outcome_congr (fun t ht hkind => ?_)
    refine resolve_congr (fun a ha => Grid.permit_congr rfl ?_) (fun a _ _ => rfl)
    have hne : s ≠ a := fun h => hts t ht ⟨hkind, h ▸ Address.named?_of_ofRef ha⟩
    simpa [Grid.select] using hne

/-- With the cell `A1` selected, its spelling with a leading zero is refused as well, and the
formula `A2` is read as if nothing were selected. -/
theorem parse_select_leadingZero : ∃ g : Grid,
    g = ⟨.sparse 2 [(⟨0, 1⟩, .whole 7), (⟨1, 1⟩, .text "5")], none⟩ ∧
    (∀ f, (parse (some (g.select (some ⟨0, 1⟩))) [⟨.cellReference, "A01"⟩]).outcome ≠ .ok f) ∧
    (parse (some (g.select (some ⟨0, 1⟩))) [⟨.cellReference, "A2"⟩]).outcome =
      (parse (some (g.select none)) [⟨.cellReference, "A2"⟩]).outcome ∧
    (parse (some (g.select (some ⟨0, 1⟩))) [⟨.cellReference, "A2"⟩]).outcome = .ok (.leaf 5) :=
  ⟨_, rfl, (parse_select _ ⟨0, 1⟩ _).1 (by decide), (parse_select _ ⟨0, 1⟩ _).2 (by decide),
    parse_reference rfl⟩

/-- **Grids that agree where the tokens refer** give one outcome: the same formula, or the
same failure. What the selected cell holds, what stands in other cells and what lies below
the last row make no difference. -/
theorem parse_eq_of_agreeOn {g h : Grid} {ts : List Token} (hagree : AgreeOn ts g h) :
    (parse (some g) ts).outcome = (parse (some h) ts).outcome := by
  simp only [outcome_parse]
  refine Reading.outcome_congr (fun t ht hkind => resolve_congr ?_ ?_)
  · intro a _
    exact Grid.permit_congr hagree.rowCount (by rw [hagree.selected])
  · intro a ha hpermit
    obtain ⟨hpos, hrow, hself⟩ := Grid.of_permit_eq_ok hpermit
    exact hagree.valueAt t ht a ⟨hkind, Address.named?_of_ofRef ha⟩ hpos hrow hself

/-- In `A1+B1*A3` with `B1` selected and two rows, only the content of `A1` counts, and the formula
`A1` is read as the number in it. -/
theorem parse_eq_of_agreeOn_selected : ∃ (ts : List Token) (g h : Grid),
    ts = [⟨.cellReference, "A1"⟩, ⟨.operator, "+"⟩, ⟨.cellReference, "B1"⟩, ⟨.operator, "*"⟩,
      ⟨.cellReference, "A3"⟩] ∧
    g = ⟨.sparse 2 [(⟨0, 1⟩, .text "7"), (⟨0, 2⟩, .whole 1), (⟨2, 1⟩, .whole 5)],
      some ⟨0, 2⟩⟩ ∧
    h = ⟨.frame ⟨["label", "A", "B"], [[none, some "7", some "x"], [none, some "8", none]]⟩,
      some ⟨0, 2⟩⟩ ∧
    AgreeOn ts g h ∧ (parse (some g) ts).outcome = (parse (some h) ts).outcome ∧
    (parse (some g) (ts.take 1)).outcome = .ok (.leaf 7) ∧
    (parse (some h) (ts.take 1)).outcome = .ok (.leaf 7) := by
  have hA1 : Address.named? "A1" = some ⟨0, 1⟩ := by decide
  have hB1 : Address.named? "B1" = some ⟨0, 2⟩ := by decide
  have hA3 : Address.named? "A3" = some ⟨2, 1⟩ := by decide
  refine ⟨_, _, _, rfl, rfl, rfl, ?_⟩
  suffices hagree : AgreeOn _ _ _ from
    ⟨hagree, parse_eq_of_agreeOn hagree, parse_reference rfl,
      (parse_eq_of_agreeOn (hagree.subset (List.take_subset 1 _))).symm.trans
        (parse_reference rfl)⟩
  refine ⟨rfl, rfl, ?_⟩
  rintro t ht a ⟨hkind, hnamed⟩ - hrow hself
  simp only [List.mem_cons, List.not_mem_nil, or_false] at ht
  obtain rfl | rfl | rfl | rfl | rfl := ht
  · obtain rfl := Option.some.inj (hA1.symm.trans hnamed)
    rfl
  · cases hkind
  · obtain rfl := Option.some.inj (hB1.symm.trans hnamed)
    exact absurd rfl hself
  · cases hkind
  · obtain rfl := Option.some.inj (hA3.symm.trans hnamed)
    exact absurd hrow (by decide)

end Computation

end SheetFormula
