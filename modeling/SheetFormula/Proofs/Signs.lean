import Mathlib.Algebra.Field.Rat
import Mathlib.Algebra.Ring.Parity
import Mathlib.Data.List.Induction
import Mathlib.Tactic.Linarith
import Mathlib.Tactic.Ring
import SheetFormula.Formula.Evaluation
import SheetFormula.Proofs.Parsing

/-!
# Signs of Terms

An expression is a first term, which may be absent, and terms with one or more signs before
each of them. Between two signs stands an empty slot, which counts as zero, so each sign but
the last one before a term adds zero to what came before, or takes it away. **The last sign
alone counts.**

The value in exact arithmetic is compared with that of signs as unary operators, where each
minus before a term turns its value around. The two differ by twice the sum of the terms
that have an odd number of minus signs before their last sign.

Values are taken in the arithmetic of rational numbers, and those of functions are whatever
is given for them.

## Main results

* `exists_signedSum`: every expression with a value is such a sum.
* `SignedSum.parse_value`: the value of a sum, and when it is that of unary signs.
-/

namespace SheetFormula

/-! ### Exact values -/

/-- The **exact value of a double**, when it is finite. -/
def exactValue (x : Float) : Except Failure ℚ :=
  match Decimal.Binary.ofFloat x with
  | .finite negative significand exponent =>
      pure ((if negative then -1 else 1) * significand * 2 ^ exponent)
  | _ => throw .unfilled

/-- The **exact arithmetic** of rational numbers, in which `apply` gives the values of
functions. -/
def Arithmetic.exact (apply : Function → List ℚ → Except Failure ℚ) : Arithmetic ℚ where
  add x y := pure (x + y)
  sub x y := pure (x - y)
  mul x y := pure (x * y)
  div x y := pure (x / y)
  isZero x := x == 0
  apply := apply

/-- A formula **has a value** in exact arithmetic. -/
def HasValue (apply : Function → List ℚ → Except Failure ℚ) (f : Formula Float) (v : ℚ) : Prop :=
  (f.run (Arithmetic.exact apply) exactValue).outcome = .ok v

/-- The factor that a sign puts before a value. -/
def Token.factor (t : Token) : ℚ := if t.text = "-" then -1 else 1

/-- The number of minus signs. -/
def minuses (ts : List Token) : Nat := ts.countP fun t => t.text = "-"

variable {apply : Function → List ℚ → Except Failure ℚ}

/-- The value of a leaf is that of its double. -/
theorem hasValue_leaf {x : Float} {negative : Bool} {significand : Nat} {exponent : Int}
    (h : Decimal.Binary.ofFloat x = .finite negative significand exponent) :
    HasValue apply (.leaf x) ((if negative then -1 else 1) * significand * 2 ^ exponent) := by
  have hexact : exactValue x = .ok ((if negative then -1 else 1) * significand * 2 ^ exponent) := by
    rw [exactValue, h]
    rfl
  exact hexact

/-- An empty slot has the value zero. -/
theorem hasValue_zero : HasValue apply (.leaf 0) 0 := by
  have hzero : Decimal.Binary.ofFloat 0 = .finite false 0 (-1074) := by rfl
  have hleaf : HasValue apply (.leaf 0) _ := hasValue_leaf hzero
  simpa using hleaf

/-- A sum or difference has a value when both of its sides have one. -/
theorem hasValue_binary_iff {t : Token} (ht : t.Adds) {l r : Formula Float} {v : ℚ} :
    HasValue apply (.binary t.text l r) v ↔
      ∃ x y, HasValue apply l x ∧ HasValue apply r y ∧ v = x + t.factor * y := by
  rw [HasValue, Token.factor]
  obtain h | h := ht
  · have hrun : (Formula.run (Arithmetic.exact apply) exactValue (.binary "+" l r)) = (do
        let x ← l.run (Arithmetic.exact apply) exactValue
        let y ← r.run (Arithmetic.exact apply) exactValue
        (Arithmetic.exact apply).add x y) := by rw [Formula.run, if_pos rfl]
    have hfactor : (if t.text = "-" then (-1 : ℚ) else 1) = 1 := if_neg (by rw [h]; decide)
    rw [hfactor, h, hrun]
    simp only [Trace.outcome_bind_eq_ok_iff]
    constructor
    · rintro ⟨x, hx, y, hy, hv⟩
      exact ⟨x, y, hx, hy, by rw [one_mul]; exact (Except.ok.inj hv).symm⟩
    · rintro ⟨x, y, hx, hy, rfl⟩
      exact ⟨x, hx, y, hy, by rw [one_mul]; rfl⟩
  · have hrun : (Formula.run (Arithmetic.exact apply) exactValue (.binary "-" l r)) = (do
        let x ← l.run (Arithmetic.exact apply) exactValue
        let y ← r.run (Arithmetic.exact apply) exactValue
        (Arithmetic.exact apply).sub x y) := by
      rw [Formula.run, if_neg (by decide), if_pos rfl]
    rw [if_pos h, h, hrun]
    simp only [Trace.outcome_bind_eq_ok_iff]
    constructor
    · rintro ⟨x, hx, y, hy, hv⟩
      refine ⟨x, y, hx, hy, ?_⟩
      have hsub : x - y = v := Except.ok.inj hv
      rw [← hsub]
      ring
    · rintro ⟨x, y, hx, hy, rfl⟩
      refine ⟨x, hx, y, hy, ?_⟩
      have hsub : x - y = x + -1 * y := by ring
      rw [← hsub]
      rfl

/-- A formula has one value at most. -/
theorem HasValue.unique {f : Formula Float} {v w : ℚ} (hv : HasValue apply f v)
    (hw : HasValue apply f w) : v = w := by
  rw [HasValue] at hv hw
  rw [hv] at hw
  exact Except.ok.inj hw

section Sums

/-! ### Sums of signed terms -/

variable {resolve : String → Except Failure Float}

/-- A **signed term**: a term that has a value, a sign before it, and further signs before
that one. -/
structure SignedTerm (resolve : String → Except Failure Float)
    (apply : Function → List ℚ → Except Failure ℚ) where
  before : List Token
  last : Token
  term : List Token
  formula : Formula Float
  value : ℚ
  before_adds : ∀ t ∈ before, t.Adds
  last_adds : last.Adds
  derives : Derives resolve .term term formula
  hasValue : HasValue apply formula value

namespace SignedTerm

/-- The signs before a term. -/
def signs (s : SignedTerm resolve apply) : List Token := s.before ++ [s.last]

/-- The tokens of a signed term. -/
def tokens (s : SignedTerm resolve apply) : List Token := s.before ++ s.last :: s.term

/-- The value of a term with its **last sign**. -/
def lastValue (s : SignedTerm resolve apply) : ℚ := s.last.factor * s.value

/-- The value of a term when each sign before it is a **unary operator**. -/
def unaryValue (s : SignedTerm resolve apply) : ℚ := (-1) ^ minuses s.signs * s.value

/-- The value of a term that has an odd number of minus signs before its last sign, with
that sign, and zero for other terms. -/
def oddValue (s : SignedTerm resolve apply) : ℚ :=
  if Odd (minuses s.before) then s.lastValue else 0

end SignedTerm

/-- A **sum of signed terms** behind a first slot, not all of it empty. -/
structure SignedSum (resolve : String → Except Failure Float)
    (apply : Function → List ℚ → Except Failure ℚ) where
  slot : List Token
  slotFormula : Formula Float
  slotValue : ℚ
  terms : List (SignedTerm resolve apply)
  derives : Derives resolve .slot slot slotFormula
  hasValue : HasValue apply slotFormula slotValue
  ne_nil : slot ≠ [] ∨ terms ≠ []

namespace SignedSum

/-- The tokens of a sum. -/
def tokens (s : SignedSum resolve apply) : List Token :=
  s.slot ++ s.terms.flatMap SignedTerm.tokens

/-- The value of a sum in which the **last sign** before a term counts. -/
def lastValue (s : SignedSum resolve apply) : ℚ :=
  s.slotValue + (s.terms.map SignedTerm.lastValue).sum

/-- The value of a sum in which all signs are **unary operators**. -/
def unaryValue (s : SignedSum resolve apply) : ℚ :=
  s.slotValue + (s.terms.map SignedTerm.unaryValue).sum

/-- The sum of the terms that have an odd number of minus signs before their last sign. -/
def oddValue (s : SignedSum resolve apply) : ℚ := (s.terms.map SignedTerm.oddValue).sum

end SignedSum

/-! ### The two values of a sum -/

/-- One minus sign turns a value around. -/
theorem factor_eq (t : Token) : t.factor = (-1) ^ minuses [t] := by
  rw [Token.factor, minuses]
  by_cases h : t.text = "-"
  · rw [if_pos h, List.countP_cons_of_pos (by simpa using h)]
    simp
  · rw [if_neg h, List.countP_cons_of_neg (by simpa using h)]
    simp

/-- The two values of a signed term differ by twice its odd value. -/
theorem SignedTerm.lastValue_sub_unaryValue (s : SignedTerm resolve apply) :
    s.lastValue - s.unaryValue = 2 * s.oddValue := by
  have hsigns : minuses s.signs = minuses s.before + minuses [s.last] := List.countP_append
  rw [SignedTerm.oddValue, SignedTerm.unaryValue, SignedTerm.lastValue]
  rw [hsigns, pow_add, ← factor_eq]
  obtain h | h := Nat.even_or_odd (minuses s.before)
  · rw [h.neg_one_pow, if_neg (Nat.not_odd_iff_even.mpr h)]
    ring
  · rw [h.neg_one_pow, if_pos h]
    ring

/-- The value of a sum misses that of unary signs by **twice its odd terms**. -/
theorem SignedSum.lastValue_sub_unaryValue (s : SignedSum resolve apply) :
    s.lastValue - s.unaryValue = 2 * s.oddValue := by
  rw [SignedSum.lastValue, SignedSum.unaryValue, SignedSum.oddValue]
  induction s.terms with
  | nil => simp
  | cons t r ih =>
      simp only [List.map_cons, List.sum_cons]
      have ht := t.lastValue_sub_unaryValue
      linarith

/-! ### A sum of signed terms is parsed with its last signs -/

/-- Some tokens are slots with signs between them, which **come to** a value. -/
def ComesTo (resolve : String → Except Failure Float)
    (apply : Function → List ℚ → Except Failure ℚ) (ts : List Token) (v : ℚ) : Prop :=
  ∃ f, Derives resolve .sum ts f ∧ HasValue apply f v

namespace ComesTo

variable {ts : List Token} {v : ℚ}

/-- A further sign with nothing behind it changes no value. -/
theorem sign (h : ComesTo resolve apply ts v) {t : Token} (ht : t.Adds) :
    ComesTo resolve apply (ts ++ [t]) v := by
  obtain ⟨f, hf, hv⟩ := h
  refine ⟨_, .moreSlots hf ht .emptySlot, (hasValue_binary_iff ht).mpr ?_⟩
  exact ⟨v, 0, hv, hasValue_zero, by ring⟩

/-- Signs behind some tokens do not change what they come to. -/
theorem signs (h : ComesTo resolve apply ts v) {us : List Token} (hus : ∀ t ∈ us, t.Adds) :
    ComesTo resolve apply (ts ++ us) v := by
  induction us generalizing ts with
  | nil => rwa [List.append_nil]
  | cons t us ih =>
      rw [List.append_cons]
      refine ih (h.sign (hus t List.mem_cons_self)) (fun u hu => hus u ?_)
      exact List.mem_cons_of_mem _ hu

/-- A signed term adds its value with the last sign. -/
theorem term (h : ComesTo resolve apply ts v) (s : SignedTerm resolve apply) :
    ∃ f, Derives resolve .sum (ts ++ s.before) f ∧
      Derives resolve .expression (ts ++ s.tokens) (.binary s.last.text f s.formula) ∧
      HasValue apply (.binary s.last.text f s.formula) (v + s.lastValue) := by
  obtain ⟨f, hf, hv⟩ := h.signs s.before_adds
  refine ⟨f, hf, ?_, (hasValue_binary_iff s.last_adds).mpr ⟨v, s.value, hv, s.hasValue, rfl⟩⟩
  rw [SignedTerm.tokens, ← List.append_assoc]
  exact .ofSum hf s.last_adds s.derives

/-- A signed term behind some tokens is added with its last sign. -/
theorem signedTerm (h : ComesTo resolve apply ts v) (s : SignedTerm resolve apply) :
    ComesTo resolve apply (ts ++ s.tokens) (v + s.lastValue) := by
  obtain ⟨f, hf, -, hv⟩ := h.term s
  refine ⟨_, ?_, hv⟩
  rw [SignedTerm.tokens, ← List.append_assoc]
  exact .moreSlots hf s.last_adds (.filledSlot s.derives)

/-- Signed terms behind some tokens are added with their last signs. -/
theorem signedTerms (h : ComesTo resolve apply ts v) (terms : List (SignedTerm resolve apply)) :
    ComesTo resolve apply (ts ++ terms.flatMap SignedTerm.tokens)
      (v + (terms.map SignedTerm.lastValue).sum) := by
  induction terms generalizing ts v with
  | nil => simpa using h
  | cons s r ih =>
      have hr := ih (h.signedTerm s)
      rwa [List.append_assoc, add_assoc, ← List.flatMap_cons, ← List.sum_cons,
        ← List.map_cons] at hr

end ComesTo

/-- A sum of signed terms is an expression, whose value is that with the **last signs**. -/
theorem SignedSum.exists_derives (s : SignedSum resolve apply) :
    ∃ f, Derives resolve .expression s.tokens f ∧ HasValue apply f s.lastValue := by
  obtain ⟨slot, g, v, terms, hderives, hvalue, hne⟩ := s
  have hslot : ComesTo resolve apply slot v := ⟨g, .oneSlot hderives, hvalue⟩
  induction terms using List.reverseRecOn with
  | nil =>
      have hterm := Reading.derives_term_of_slot (hne.resolve_right (fun h => h rfl)) hderives
      refine ⟨g, ?_, ?_⟩
      · simpa [SignedSum.tokens] using .ofTerm hterm
      · simpa [SignedSum.lastValue] using hvalue
  | append_singleton terms t _ =>
      obtain ⟨f, -, hf, hv⟩ := (hslot.signedTerms terms).term t
      refine ⟨.binary t.last.text f t.formula, ?_, ?_⟩
      · simpa [SignedSum.tokens] using hf
      · simpa [SignedSum.lastValue, add_assoc] using hv

/-! ### Every expression with a value is a sum of signed terms -/

/-- Slots with signs between them are a sum of signed terms with signs behind it. -/
theorem exists_signedTerms {ts : List Token} {f : Formula Float}
    (h : Derives resolve .sum ts f) {v : ℚ} (hv : HasValue apply f v) :
    ∃ slot g w, ∃ terms : List (SignedTerm resolve apply), ∃ after,
      Derives resolve .slot slot g ∧ HasValue apply g w ∧ (∀ t ∈ after, t.Adds) ∧
        ts = slot ++ terms.flatMap SignedTerm.tokens ++ after := by
  generalize hs : Symbol.sum = s at h
  induction h generalizing v with
  | @oneSlot ts g h _ => exact ⟨ts, g, v, [], [], h, hv, by simp, by simp⟩
  | @moreSlots ts us t l r _ ht hr ihl _ =>
      obtain ⟨x, y, hx, hy, -⟩ := (hasValue_binary_iff ht).mp hv
      obtain ⟨slot, g, w, terms, after, hslot, hw, hafter, rfl⟩ := ihl hx rfl
      cases hr with
      | emptySlot =>
          refine ⟨slot, g, w, terms, after ++ [t], hslot, hw, ?_, by simp⟩
          intro u hu
          obtain hu | hu := List.mem_append.mp hu
          · exact hafter u hu
          · rw [List.mem_singleton.mp hu]
            exact ht
      | filledSlot hr =>
          refine ⟨slot, g, w, terms ++ [⟨after, t, us, r, y, hafter, ht, hr, hy⟩], [], hslot,
            hw, by simp, ?_⟩
          simp [SignedTerm.tokens]
  | _ => cases hs

/-- **Every expression with a value** is a sum of signed terms. -/
theorem exists_signedSum {ts : List Token} {f : Formula Float}
    (h : Derives resolve .expression ts f) {v : ℚ} (hv : HasValue apply f v) :
    ∃ s : SignedSum resolve apply, s.tokens = ts := by
  cases h with
  | ofTerm h =>
      have hne : ts ≠ [] := h.ne_nil.resolve_left id
      exact ⟨⟨ts, f, v, [], .filledSlot h, hv, Or.inl hne⟩, by simp [SignedSum.tokens]⟩
  | @ofSum ts us t l r hl ht hr =>
      obtain ⟨x, y, hx, hy, -⟩ := (hasValue_binary_iff ht).mp hv
      obtain ⟨slot, g, w, terms, after, hslot, hw, hafter, rfl⟩ := exists_signedTerms hl hx
      refine ⟨⟨slot, g, w, terms ++ [⟨after, t, us, r, y, hafter, ht, hr, hy⟩], hslot, hw,
        Or.inr (by simp)⟩, ?_⟩
      simp [SignedSum.tokens, SignedTerm.tokens]

end Sums

/-! ### The value of a parsed sum -/

/-- **The last sign before a term counts.** Tokens that are parsed and have a value are a sum
of signed terms, and the value is that with the last signs. It is also the value with unary
signs exactly when the terms that have an odd number of minus signs before their last sign
come to zero. -/
theorem SignedSum.parse_value (grid : Option Grid)
    (apply : Function → List ℚ → Except Failure ℚ) :
    (∀ ts f v, (Computation.parse grid ts).outcome = .ok f → HasValue apply f v →
      ∃ s : SignedSum (resolve grid) apply, s.tokens = ts) ∧
    ∀ s : SignedSum (resolve grid) apply, ∃ f,
      (Computation.parse grid s.tokens).outcome = .ok f ∧ HasValue apply f s.lastValue ∧
      (HasValue apply f s.unaryValue ↔ s.oddValue = 0) := by
  constructor
  · intro ts f v hparse hv
    exact exists_signedSum (Computation.outcome_parse_eq_ok_iff.mp hparse) hv
  · intro s
    obtain ⟨f, hf, hv⟩ := s.exists_derives
    have hdiff := s.lastValue_sub_unaryValue
    refine ⟨f, Computation.outcome_parse_eq_ok_iff.mpr hf, hv, ?_, ?_⟩
    · intro hunary
      have heq := hv.unique hunary
      linarith
    · intro hodd
      have heq : s.lastValue = s.unaryValue := by linarith
      rwa [← heq]

/-- The number 1 has its value. -/
theorem hasValue_one : HasValue apply (.leaf 1) 1 := by
  have hone : Decimal.Binary.ofFloat 1 = .finite false (2 ^ 52) (-52) := by rfl
  convert hasValue_leaf hone
  norm_num

/-- The number 2 has its value. -/
theorem hasValue_two : HasValue apply (.leaf 2) 2 := by
  have htwo : Decimal.Binary.ofFloat 2 = .finite false (2 ^ 52) (-51) := by rfl
  convert hasValue_leaf htwo
  norm_num

/-- In `1--2` the first minus sign is lost: the value is minus one, where unary signs give
three. -/
theorem SignedSum.lastValue_ne_unaryValue :
    ∃ s : SignedSum (resolve none) (fun _ _ => throw .unfilled), ∃ f,
      s.tokens = [⟨.number, "1"⟩, ⟨.operator, "-"⟩, ⟨.operator, "-"⟩, ⟨.number, "2"⟩] ∧
      (Computation.parse none s.tokens).outcome = .ok f ∧
      HasValue (fun _ _ => throw .unfilled) f (-1) ∧ s.unaryValue = 3 := by
  let s : SignedSum (resolve none) (fun _ _ => throw .unfilled) :=
    { slot := [⟨.number, "1"⟩]
      slotFormula := .leaf 1
      slotValue := 1
      terms := [{
        before := [⟨.operator, "-"⟩]
        last := ⟨.operator, "-"⟩
        term := [⟨.number, "2"⟩]
        formula := .leaf 2
        value := 2
        before_adds := by simp [Token.Adds]
        last_adds := Or.inr rfl
        derives := .oneFactor (.number rfl (by decide))
        hasValue := hasValue_two }]
      derives := .filledSlot (.oneFactor (.number rfl (by decide)))
      hasValue := hasValue_one
      ne_nil := Or.inl (by simp) }
  obtain ⟨f, hf, hv⟩ := s.exists_derives
  have hlast : s.lastValue = -1 := by
    simp [s, lastValue, SignedTerm.lastValue, Token.factor]
    norm_num
  have hunary : s.unaryValue = 3 := by
    simp [s, unaryValue, SignedTerm.unaryValue, SignedTerm.signs, minuses]
    norm_num
  exact ⟨s, f, rfl, Computation.outcome_parse_eq_ok_iff.mpr hf, hlast ▸ hv, hunary⟩

end SheetFormula
