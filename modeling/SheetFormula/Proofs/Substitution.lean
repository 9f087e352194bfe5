import SheetFormula.Proofs.Parsing
import SheetFormula.Proofs.PlainReading
import SheetFormula.Proofs.Replacement

/-!
# References as Numbers

A formula is read with its references resolved as they are met. The same comes of it when each
reference is first replaced by the number token with the plain text of its number, and the
tokens are then read without a grid.

References and numbers are inert tokens: their texts are never signs or parentheses, so the
replacement keeps the form. A reference corresponds to the number that it is replaced by, since
the plain text of a number is read back. Every other token stays, and fails in both readings if
it is no operand.

## Main results

* `Token.keepsForm_substitute`: putting numbers for references **keeps the form**.
* `Reading.corresponds_substitute`: a token corresponds to what is put for it.
* `Computation.parse_substitute`: **to resolve references is to substitute numbers for them**.
-/

namespace SheetFormula

namespace Token

/-- The token that **stands for a token** when references are resolved: for a reference that has
a number the number token with its plain text, and each other token for itself. -/
def substitute (resolve : String → Except Failure Float) (t : Token) : Token :=
  match t.kind, resolve t.text with
  | .cellReference, .ok x => ⟨.number, Decimal.plainText x⟩
  | _, _ => t

variable {resolve : String → Except Failure Float} {t : Token}

/-- A token that is no reference is not replaced. -/
theorem substitute_of_ne (h : t.kind ≠ .cellReference) : t.substitute resolve = t := by
  rw [substitute]
  split
  · rename_i hkind _
    exact absurd hkind h
  · rfl

/-- A reference that is not resolved is not replaced. -/
theorem substitute_of_error (h : t.kind = .cellReference) {e : Failure}
    (he : resolve t.text = .error e) : t.substitute resolve = t := by
  rw [substitute, h, he]

/-- A reference is replaced by the number that it is resolved to. -/
theorem substitute_of_ok (h : t.kind = .cellReference) {x : Float}
    (hx : resolve t.text = .ok x) : t.substitute resolve = ⟨.number, Decimal.plainText x⟩ := by
  rw [substitute, h, hx]

/-- Putting numbers for references **keeps the form**: no text of a reference that has a number
is a sign, and no text of a number. -/
theorem keepsForm_substitute (hresolve : Referring resolve) : KeepsForm (substitute resolve) := by
  intro t
  by_cases hkind : t.kind = .cellReference
  · cases hx : resolve t.text with
    | error e => exact Or.inl (substitute_of_error hkind hx)
    | ok x =>
        refine Or.inr ⟨⟨?_, fun c _ => hresolve _ x hx c⟩, ?_⟩
        · rw [hkind]
          decide
        · rw [substitute_of_ok hkind hx]
          exact ⟨nofun, fun c hc => toList_ne_of_read (Decimal.read?_plainText x) hc⟩
  · exact Or.inl (substitute_of_ne hkind)

end Token

/-- **A token corresponds to what is put for it** when it has a number, if it is a reference:
both are read as the same number, or have the same fault. -/
theorem Reading.corresponds_substitute {resolve other : String → Except Failure Float} {t : Token}
    (ht : t.kind = .cellReference → ∃ x, resolve t.text = .ok x) :
    Corresponds (Token.substitute resolve) (fun e e' => ∃ f : Fault, e = .fault f ∧ e' = .fault f)
      id (single resolve t).outcome (single other (t.substitute resolve)).outcome := by
  by_cases hkind : t.kind = .cellReference
  · obtain ⟨x, hx⟩ := ht hkind
    have hreference : (single resolve t).outcome = .ok (.leaf x) :=
      single_eq_ok_iff.mpr ⟨x, rfl, Or.inr ⟨hkind, hx⟩⟩
    have hnumber : (single other ⟨.number, Decimal.plainText x⟩).outcome = .ok (.leaf x) :=
      single_eq_ok_iff.mpr ⟨x, rfl, Or.inl ⟨rfl, Decimal.read?_plainText x⟩⟩
    rw [Token.substitute_of_ok hkind hx, hreference, hnumber]
    exact .answered _
  · rw [Token.substitute_of_ne hkind, single, single]
    cases hother : t.kind with
    | cellReference => exact absurd hother hkind
    | number =>
        rw [numberOf]
        cases Decimal.read? t.text with
        | none => exact .stopped ⟨.invalidNumber t, rfl, rfl⟩
        | some x => exact .answered _
    | functionName | parenthesis | operator | separator =>
        exact .stopped ⟨.unexpectedToken t, rfl, rfl⟩

namespace Computation

/-- **To resolve references is to substitute numbers for them.** When each reference among some
tokens has a number, two parsers agree: that of the tokens with the grid, and that of the tokens
with number tokens in place of the references, without a grid. Both answer with the same
formula, or both end with a fault, of the same kind. -/
theorem parse_substitute {grid : Option Grid} {ts : List Token}
    (h : ∀ t ∈ ts, t.kind = .cellReference → ∃ x, resolve grid t.text = .ok x) :
    (∃ f, (parse grid ts).outcome = .ok f ∧
      (parse none (ts.map (Token.substitute (resolve grid)))).outcome = .ok f) ∨
    ∃ fault fault' : Fault, (parse grid ts).outcome = .error (.fault fault) ∧
      (parse none (ts.map (Token.substitute (resolve grid)))).outcome = .error (.fault fault') ∧
      fault.kind = fault'.kind := by
  have htokens : Reading.Matching (Token.substitute (resolve grid))
      (fun e e' => ∃ f : Fault, e = .fault f ∧ e' = .fault f) (resolve grid) (resolve none) ts :=
    fun t ht => Reading.corresponds_substitute (h t ht)
  have hform : Token.KeepsForm (Token.substitute (resolve grid)) :=
    Token.keepsForm_substitute (referring_resolve grid)
  have hreadings := Reading.corresponds_expression hform htokens
  rw [outcome_parse, outcome_parse]
  generalize (Reading.expression (resolve grid) ts).outcome = x at hreadings ⊢
  generalize (Reading.expression (resolve none) _).outcome = y at hreadings ⊢
  cases hreadings with
  | answered f => exact Or.inl ⟨f, rfl, rfl⟩
  | refused f _ => exact Or.inr ⟨f, _, rfl, rfl, (f.kind_map _).symm⟩
  | stopped hsame =>
      obtain ⟨f, rfl, rfl⟩ := hsame
      exact Or.inr ⟨f, f, rfl, rfl, rfl⟩

/-- With minus seven in `A1` and what is not a number in `A2`, the tokens of `A1*A2` write the
same formula as a number `-7.0`, a sign and a number `nan`. No formula text has such number
tokens. -/
theorem parse_substitute_product : ∃ (grid : Grid) (ts : List Token),
    grid = ⟨.sparse 2 [(⟨0, 1⟩, .text "-7"), (⟨1, 1⟩, .text "nan")], none⟩ ∧
    ts = [⟨.cellReference, "A1"⟩, ⟨.operator, "*"⟩, ⟨.cellReference, "A2"⟩] ∧
    (∀ t ∈ ts, t.kind = .cellReference → ∃ x, resolve (some grid) t.text = .ok x) ∧
    (parse (some grid) ts).outcome = .ok (.binary "*" (.leaf (-7)) (.leaf (0.0 / 0.0))) ∧
    (parse none [⟨.number, "-7.0"⟩, ⟨.operator, "*"⟩, ⟨.number, "nan"⟩]).outcome =
      .ok (.binary "*" (.leaf (-7)) (.leaf (0.0 / 0.0))) := by
  let grid : Grid := ⟨.sparse 2 [(⟨0, 1⟩, .text "-7"), (⟨1, 1⟩, .text "nan")], none⟩
  have hone : resolve (some grid) "A1" = .ok (-7) := rfl
  have htwo : resolve (some grid) "A2" = .ok (0.0 / 0.0) := rfl
  have hresolved : ∀ t ∈ ([⟨.cellReference, "A1"⟩, ⟨.operator, "*"⟩, ⟨.cellReference, "A2"⟩] :
      List Token), t.kind = .cellReference → ∃ x, resolve (some grid) t.text = .ok x := by
    simp [hone, htwo]
  have hfirst : Derives (resolve (some grid)) .term [⟨.cellReference, "A1"⟩] (.leaf (-7)) :=
    .oneFactor (.reference rfl hone)
  have hproduct := hfirst.moreFactors (t := ⟨.operator, "*"⟩) (Or.inl rfl)
    (.reference (t := ⟨.cellReference, "A2"⟩) rfl htwo)
  have hparse : (parse (some grid) [⟨.cellReference, "A1"⟩, ⟨.operator, "*"⟩,
      ⟨.cellReference, "A2"⟩]).outcome = .ok (.binary "*" (.leaf (-7)) (.leaf (0.0 / 0.0))) :=
    outcome_parse_eq_ok_iff.mpr hproduct.ofTerm
  have htexts : Decimal.plainText (-7) = "-7.0" ∧ Decimal.plainText (0.0 / 0.0) = "nan" := by decide
  refine ⟨grid, _, rfl, rfl, hresolved, hparse, ?_⟩
  obtain ⟨f, hf, hsubstituted⟩ | ⟨fault, _, herror, -⟩ := parse_substitute hresolved
  · obtain rfl := Except.ok.inj (hparse.symm.trans hf)
    simpa only [List.map_cons, List.map_nil, Token.substitute, hone, htwo, htexts]
      using hsubstituted
  · cases hparse.symm.trans herror

end Computation

end SheetFormula
