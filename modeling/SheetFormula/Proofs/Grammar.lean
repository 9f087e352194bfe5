import SheetFormula.Proofs.Chains

/-!
# The Grammar of Formulas

Which lists of tokens are formulas, and the formula that each of them writes, as rules of
derivation. The rules say nothing of cutting: a token with the text of a sign may have any
kind, and it is the shape of the whole derivation that keeps parentheses together.

```
expression → slot (± slot)*, the last slot not empty     slot → nothing | term
term       → factor (×÷ factor)*
factor     → NUMBER | REFERENCE | ( expression ) | NAME ( expression (, expression)* )
```

Chains grow to the left: a longer one is a shorter one, a sign, and one more operand.

## Main results

* `Derives.whole`: the parentheses of derived tokens match, and outside them stand none of
  the separators that are foreign to their symbol.
* `Derives.ne_nil`: only a slot, or a sum of slots, can be empty.
-/

namespace SheetFormula

namespace Token

/-- A sign of **addition or subtraction**, of any kind. -/
def Adds (t : Token) : Prop := t.text = "+" ∨ t.text = "-"

/-- A sign of **multiplication or division**, of any kind. -/
def Multiplies (t : Token) : Prop := t.text = "*" ∨ t.text = "/"

/-- A **comma**, of any kind. -/
def IsComma (t : Token) : Prop := t.text = ","

instance : DecidablePred Adds := fun t => inferInstanceAs (Decidable (t.text = "+" ∨ t.text = "-"))

instance : DecidablePred Multiplies :=
  fun t => inferInstanceAs (Decidable (t.text = "*" ∨ t.text = "/"))

instance : DecidablePred IsComma := fun t => inferInstanceAs (Decidable (t.text = ","))

end Token

/-- The **symbols** of the grammar. -/
inductive Symbol
  | expression
  /-- Slots with signs between them, any of which may be empty. -/
  | sum
  | slot
  | term
  | factor
  /-- The arguments of a call of the function. -/
  | arguments (f : Function)

/-- `Derives resolve s ts f` says that the tokens `ts` are **derived** from the symbol `s`
and write the formula `f`, when `resolve` gives the numbers of references. The formula of
arguments is the call of these arguments, whatever their number. -/
inductive Derives (resolve : String → Except Failure Float) :
    Symbol → List Token → Formula Float → Prop
  | ofTerm {ts : List Token} {f : Formula Float} :
      Derives resolve .term ts f → Derives resolve .expression ts f
  | ofSum {ts us : List Token} {t : Token} {l r : Formula Float} :
      Derives resolve .sum ts l → t.Adds → Derives resolve .term us r →
      Derives resolve .expression (ts ++ t :: us) (.binary t.text l r)
  | oneSlot {ts : List Token} {f : Formula Float} :
      Derives resolve .slot ts f → Derives resolve .sum ts f
  | moreSlots {ts us : List Token} {t : Token} {l r : Formula Float} :
      Derives resolve .sum ts l → t.Adds → Derives resolve .slot us r →
      Derives resolve .sum (ts ++ t :: us) (.binary t.text l r)
  | emptySlot : Derives resolve .slot [] (.leaf 0)
  | filledSlot {ts : List Token} {f : Formula Float} :
      Derives resolve .term ts f → Derives resolve .slot ts f
  | oneFactor {ts : List Token} {f : Formula Float} :
      Derives resolve .factor ts f → Derives resolve .term ts f
  | moreFactors {ts us : List Token} {t : Token} {l r : Formula Float} :
      Derives resolve .term ts l → t.Multiplies → Derives resolve .factor us r →
      Derives resolve .term (ts ++ t :: us) (.binary t.text l r)
  | number {t : Token} {x : Float} :
      t.kind = .number → Decimal.read? t.text = some x →
      Derives resolve .factor [t] (.leaf x)
  | reference {t : Token} {x : Float} :
      t.kind = .cellReference → resolve t.text = .ok x →
      Derives resolve .factor [t] (.leaf x)
  | group {ts : List Token} {f : Formula Float} :
      Derives resolve .expression ts f →
      Derives resolve .factor (Token.openParen :: (ts ++ [Token.closeParen])) f
  | call {t : Token} {g : Function} {ts : List Token} {args : List (Formula Float)} :
      t.kind = .functionName → Function.ofName? t.text = some g →
      Derives resolve (.arguments g) ts (.call g args) → g.takes args.length = true →
      Derives resolve .factor (t :: Token.openParen :: (ts ++ [Token.closeParen]))
        (.call g args)
  | oneArgument {g : Function} {ts : List Token} {f : Formula Float} :
      Derives resolve .expression ts f → Derives resolve (.arguments g) ts (.call g [f])
  | moreArguments {g : Function} {ts us : List Token} {t : Token}
      {args : List (Formula Float)} {f : Formula Float} :
      Derives resolve (.arguments g) ts (.call g args) → t.IsComma →
      Derives resolve .expression us f →
      Derives resolve (.arguments g) (ts ++ t :: us) (.call g (args ++ [f]))

/-- References that have a number are longer than one character, so none of them is a sign
or a parenthesis. -/
def Referring (resolve : String → Except Failure Float) : Prop :=
  ∀ ref x, resolve ref = .ok x → ∀ c, ref.toList ≠ [c]

namespace Symbol

/-- The separators that never stand outside the parentheses of what is derived from a
symbol. -/
def foreign : Symbol → String
  | .expression | .sum => ","
  | .slot | .term => "+-,"
  | .factor => "+-*/,"
  | .arguments _ => ""

/-- Whether what is derived from a symbol may be empty. -/
def Vanishes : Symbol → Prop
  | .sum | .slot => True
  | _ => False

end Symbol

namespace Token

variable {t : Token}

/-- The signs that cut an expression are the tokens that add. -/
theorem separates_adds_iff : Segment.separates "+-".toList t = true ↔ t.Adds := by
  simp [Segment.separates_iff, Adds, ← String.toList_inj]

/-- The signs that cut a term are the tokens that multiply. -/
theorem separates_multiplies_iff : Segment.separates "*/".toList t = true ↔ t.Multiplies := by
  simp [Segment.separates_iff, Multiplies, ← String.toList_inj]

/-- The signs that cut the arguments of a call are the commas. -/
theorem separates_comma_iff : Segment.separates ",".toList t = true ↔ t.IsComma := by
  simp [Segment.separates_iff, IsComma, ← String.toList_inj]

/-- A token with a given text is whole when that text is neither a parenthesis nor one of the
separators. -/
theorem whole_of_text {separators s : String} (h : t.text = s)
    (hs : ('(' :: ')' :: separators.toList).all (fun c => s.toList ≠ [c]) = true) :
    Segment.Whole separators [t] := by
  refine Segment.whole_singleton (fun c hc hmem => ?_)
  rw [h] at hc
  exact of_decide_eq_true (List.all_eq_true.mp hs c hmem) hc

/-- A sign that adds is a whole run for the comma. -/
theorem Adds.whole (h : t.Adds) : Segment.Whole "," [t] := by
  rcases h with h | h
  · exact whole_of_text h (by decide)
  · exact whole_of_text h (by decide)

/-- A sign that multiplies is a whole run for the comma and the signs that add. -/
theorem Multiplies.whole (h : t.Multiplies) : Segment.Whole "+-," [t] := by
  rcases h with h | h
  · exact whole_of_text h (by decide)
  · exact whole_of_text h (by decide)

/-- A comma is a whole run when there are no separators. -/
theorem IsComma.whole (h : t.IsComma) : Segment.Whole "" [t] := whole_of_text h (by decide)

end Token

/-- The text of a number is none of the signs. -/
theorem toList_ne_of_read {s : String} {x : Float} (h : Decimal.read? s = some x) {c : Char}
    (hc : c ∈ '(' :: ')' :: "+-*/,".toList) : s.toList ≠ [c] := by
  intro htext
  have hnone : ('(' :: ')' :: "+-*/,".toList).all
      (fun c => (Decimal.read? (String.ofList [c])).isNone) = true := by decide
  have hread := List.all_eq_true.mp hnone c hc
  rw [← htext, String.ofList_toList, h] at hread
  cases hread

/-- A number is a whole run for all the separators. -/
theorem whole_of_read {t : Token} {x : Float} (h : Decimal.read? t.text = some x) :
    Segment.Whole "+-*/," [t] :=
  Segment.whole_singleton (fun _ hc hmem => toList_ne_of_read h hmem hc)

/-- The name of a function is longer than one character. -/
theorem toList_ne_of_ofName? {s : String} {g : Function} (h : Function.ofName? s = some g)
    (c : Char) : s.toList ≠ [c] := by
  intro htext
  have hlabel := List.find?_some h
  rw [htext] at hlabel
  cases g <;> simp [Function.label] at hlabel

/-- The name of a function is a whole run for all the separators. -/
theorem whole_of_ofName? {t : Token} {g : Function} (h : Function.ofName? t.text = some g) :
    Segment.Whole "+-*/," [t] :=
  Segment.whole_singleton (fun c hc _ => toList_ne_of_ofName? h c hc)

/-- An operand of a single token is no sign. -/
theorem Token.not_sign {t : Token}
    (h : ∀ c ∈ '(' :: ')' :: "+-*/,".toList, t.text.toList ≠ [c]) :
    ¬ t.Adds ∧ ¬ t.Multiplies := by
  constructor
  · rintro (hsign | hsign)
    · exact h '+' (by decide) (by rw [hsign]; rfl)
    · exact h '-' (by decide) (by rw [hsign]; rfl)
  · rintro (hsign | hsign)
    · exact h '*' (by decide) (by rw [hsign]; rfl)
    · exact h '/' (by decide) (by rw [hsign]; rfl)

variable {resolve : String → Except Failure Float}

/-- **The parentheses of derived tokens match**, and outside them stand none of the
separators that are foreign to their symbol. -/
theorem Derives.whole (hresolve : Referring resolve) {s : Symbol} {ts : List Token}
    {f : Formula Float} (h : Derives resolve s ts f) : Segment.Whole s.foreign ts := by
  induction h with
  | ofTerm _ ih => exact ih.of_subset (by decide)
  | ofSum _ ht _ ihl ihr => exact ihl.append (ht.whole.append (ihr.of_subset (by decide)))
  | oneSlot _ ih => exact ih.of_subset (by decide)
  | moreSlots _ ht _ ihl ihr => exact ihl.append (ht.whole.append (ihr.of_subset (by decide)))
  | emptySlot => exact Segment.whole_nil _
  | filledSlot _ ih => exact ih
  | oneFactor _ ih => exact ih.of_subset (by decide)
  | moreFactors _ ht _ ihl ihr => exact ihl.append (ht.whole.append (ihr.of_subset (by decide)))
  | number _ hx => exact whole_of_read hx
  | reference _ hx =>
      exact Segment.whole_singleton (fun c hc _ => hresolve _ _ hx c hc)
  | group _ ih => exact ih.group ⟨by decide, by decide⟩
  | call _ hname _ _ ih =>
      exact (whole_of_ofName? hname).append (ih.group ⟨by decide, by decide⟩)
  | oneArgument _ ih => exact ih.of_subset (List.nil_subset _)
  | moreArguments _ ht _ ihl ihr =>
      exact ihl.append (ht.whole.append (ihr.of_subset (List.nil_subset _)))

/-- Only a slot, or a sum of slots, can be derived from no tokens. -/
theorem Derives.ne_nil {s : Symbol} {ts : List Token} {f : Formula Float}
    (h : Derives resolve s ts f) : s.Vanishes ∨ ts ≠ [] := by
  induction h with
  | ofTerm _ ih => exact ih
  | oneSlot | moreSlots | emptySlot | filledSlot => exact Or.inl trivial
  | oneFactor _ ih => exact ih
  | oneArgument _ ih => exact ih
  | ofSum | moreFactors | number | reference | group | call | moreArguments =>
      exact Or.inr (by simp)

end SheetFormula
