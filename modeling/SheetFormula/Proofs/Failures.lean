import SheetFormula.Proofs.Parsing
import SheetFormula.Proofs.Replacement

/-!
# Where Failures Come From

A reading fails for one of two reasons. Either its tokens do not fit together, whatever their
texts say: parentheses that do not match, an operand that is missing, a name that calls no
function. Or a single token has no value: a number whose text is none, or a reference that
does not resolve.

The reader calls the resolver on the references among its tokens and on nothing else. Two
resolvers that have numbers for the same references, and the same numbers, are in step: both
readings answer alike, or both fail for the same reason, or both stop at the same reference,
each with the failure that its own resolver gives there. So a reading that fails at a reference
**stops** there, whatever the failure of the reference is.

## Main results

* `Reading.rooted_expression`: **every failure of a reading** is structural, or that of one of
  its tokens as an operand.
* `Reading.inStep_expression`: **two readings of the same tokens are in step**.
* `Reading.Uniform.failure_cases`, `Reading.failure_cases`: every failure of a reading is a fault in
  form, or that of the reference at which the reading stops.
-/

namespace SheetFormula

/-- Whether a fault blames a reference. -/
def Fault.isReference : Fault → Bool
  | .invalidReference _ _ => true
  | _ => false

/-- A fault that blames no operand is none of a reference. -/
theorem Fault.isReference_eq_false {f : Fault} (h : f.blamesOperand = false) :
    f.isReference = false := by
  cases f with
  | invalidReference => cases h
  | _ => rfl

namespace Reading

/-! ### Failures at tokens -/

variable {resolve r₁ r₂ : String → Except Failure Float} {refs : String → Prop} {α : Type}

/-- A failure is **structural** when it is a fault that blames the text of no operand. -/
def Structural (e : Failure) : Prop := ∃ f : Fault, e = .fault f ∧ f.blamesOperand = false

/-- A reading is **rooted** in some tokens when each of its failures is structural, or that of
one of the tokens as an operand. -/
def Rooted (resolve : String → Except Failure Float) (ts : List Token) (x : Reading α) : Prop :=
  ∀ e, x.outcome = .error e → Structural e ∨ ∃ t ∈ ts, (single resolve t).outcome = .error e

/-- **Every failure of a reading** is structural, or that of one of its tokens as an
operand: the reading corresponds to itself, and where it stops it has the failure of a token. -/
theorem rooted_expression (ts : List Token) : Rooted resolve ts (expression resolve ts) := by
  intro e he
  have hts : Matching id (fun e _ => ∃ t ∈ ts, (single resolve t).outcome = .error e)
      resolve resolve ts := by
    intro t ht
    cases htoken : (single resolve t).outcome with
    | ok f =>
        rw [id, htoken]
        exact .answered f
    | error e =>
        rw [id, htoken]
        exact .stopped ⟨t, ht, htoken⟩
  have hsame := corresponds_expression Token.keepsForm_id hts
  rw [he] at hsame
  generalize (expression resolve (ts.map id)).outcome = y at hsame
  cases hsame with
  | refused f hf => exact Or.inl ⟨f, rfl, hf⟩
  | stopped htoken => exact Or.inr htoken

/-! ### Two readings in step -/

/-- Two outcomes are **alike**: the same answer, the same fault that blames no reference, or
failures of the same reference in two resolvers. -/
inductive Alike (r₁ r₂ : String → Except Failure Float) (refs : String → Prop) :
    Except Failure α → Except Failure α → Prop
  | answered (a : α) : Alike r₁ r₂ refs (.ok a) (.ok a)
  | refused {f : Fault} : f.isReference = false →
      Alike r₁ r₂ refs (.error (.fault f)) (.error (.fault f))
  | stopped {ref : String} {e₁ e₂ : Failure} : refs ref → r₁ ref = .error e₁ →
      r₂ ref = .error e₂ → Alike r₁ r₂ refs (.error e₁) (.error e₂)

/-- Readings are **in step** when their outcomes are alike. -/
def InStep (r₁ r₂ : String → Except Failure Float) (refs : String → Prop)
    (x y : Reading α) : Prop :=
  Alike r₁ r₂ refs x.outcome y.outcome

/-- The references among some tokens. -/
def Covers (refs : String → Prop) (ts : List Token) : Prop :=
  ∀ t ∈ ts, t.kind = .cellReference → refs t.text

/-- Two resolvers have the **same numbers** for some references. -/
def SameNumbers (r₁ r₂ : String → Except Failure Float) (refs : String → Prop) : Prop :=
  ∀ ref, refs ref → ∀ x, r₁ ref = .ok x ↔ r₂ ref = .ok x

/-- A single token is met by both resolvers if it is a reference. -/
theorem inStep_single (hsame : SameNumbers r₁ r₂ refs) {t : Token}
    (href : t.kind = .cellReference → refs t.text) :
    InStep r₁ r₂ refs (single r₁ t) (single r₂ t) := by
  rw [single, single]
  cases hkind : t.kind with
  | number =>
      rw [numberOf]
      cases Decimal.read? t.text with
      | none => exact .refused rfl
      | some x => exact .answered _
  | cellReference =>
      rw [resolveNoting, resolveNoting]
      cases h₁ : r₁ t.text with
      | ok x =>
          rw [(hsame t.text (href hkind) x).mp h₁]
          exact .answered _
      | error e₁ =>
          cases h₂ : r₂ t.text with
          | ok x =>
              rw [(hsame t.text (href hkind) x).mpr h₂] at h₁
              cases h₁
          | error e₂ => exact .stopped (href hkind) h₁ h₂
  | functionName | parenthesis | operator | separator => exact .refused rfl

/-- Failures that are **alike** in two resolvers. -/
def AlikeFailures (r₁ r₂ : String → Except Failure Float) (refs : String → Prop)
    (e₁ e₂ : Failure) : Prop :=
  Alike r₁ r₂ refs (.error e₁ : Except Failure (Formula Float)) (.error e₂)

/-- Each token corresponds to itself, when the resolvers have the same numbers for the references
among the tokens. -/
theorem matching_of_covers (hsame : SameNumbers r₁ r₂ refs) {ts : List Token}
    (hcovers : Covers refs ts) : Matching id (AlikeFailures r₁ r₂ refs) r₁ r₂ ts := by
  intro t ht
  have hsingle : Alike r₁ r₂ refs (single r₁ t).outcome (single r₂ t).outcome :=
    inStep_single hsame (hcovers t ht)
  rw [id]
  generalize (single r₁ t).outcome = x, (single r₂ t).outcome = y at hsingle ⊢
  cases hsingle with
  | answered f => exact .answered f
  | refused hf => exact .stopped (.refused hf)
  | stopped href h₁ h₂ => exact .stopped (.stopped href h₁ h₂)

/-- Readings that correspond, without a token replaced, are in step. -/
theorem inStep_of_corresponds {x y : Reading (Formula Float)}
    (h : Corresponds id (AlikeFailures r₁ r₂ refs) id x.outcome y.outcome) :
    InStep r₁ r₂ refs x y := by
  rw [InStep]
  generalize x.outcome = a, y.outcome = b at h ⊢
  cases h with
  | answered f => exact .answered f
  | refused f hf =>
      rw [Fault.map_id]
      exact .refused (Fault.isReference_eq_false hf)
  | stopped halike => exact halike

/-- **Two readings of the same tokens are in step** when the resolvers have the same numbers
for the references among the tokens. -/
theorem inStep_expression (hsame : SameNumbers r₁ r₂ refs) {ts : List Token}
    (hcovers : Covers refs ts) : InStep r₁ r₂ refs (expression r₁ ts) (expression r₂ ts) := by
  have hreadings := corresponds_expression Token.keepsForm_id (matching_of_covers hsame hcovers)
  rw [List.map_id] at hreadings
  exact inStep_of_corresponds hreadings

/-! ### Where a reading stops -/

/-- A failure that **blames no reference**: it is a fault in the form of the tokens. -/
def InForm (e : Failure) : Prop := ∃ f : Fault, e = .fault f ∧ f.isReference = false

variable {ts : List Token} {read : (String → Except Failure Float) → Reading α}

/-- A way to read some tokens is **uniform** in the resolver when its readings with two resolvers
are in step, if these have the same numbers for the references among the tokens. -/
def Uniform (ts : List Token) (read : (String → Except Failure Float) → Reading α) : Prop :=
  ∀ r₁ r₂ refs, SameNumbers r₁ r₂ refs → Covers refs ts → InStep r₁ r₂ refs (read r₁) (read r₂)

/-- Expressions are read in a uniform way. -/
theorem uniform_expression (ts : List Token) : Uniform ts fun r => expression r ts :=
  fun _ _ _ hsame hcovers => inStep_expression hsame hcovers

/-- The resolver that **fails at a reference** with the given failure. -/
def failingAt (resolve : String → Except Failure Float) (ref : String) (e : Failure) :
    String → Except Failure Float :=
  fun s => if s = ref then .error e else resolve s

/-- A way to read **stops at a reference** when it fails as that reference does, whatever its
failure is. -/
def Stops (read : (String → Except Failure Float) → Reading α)
    (resolve : String → Except Failure Float) (ref : String) : Prop :=
  ∀ e, (read (failingAt resolve ref e)).outcome = .error e

/-- A reading **stops at a reference** when it fails as that reference does, whatever its
failure is. -/
def StopsAt (resolve : String → Except Failure Float) (ts : List Token) (ref : String) : Prop :=
  ∀ e, (expression (failingAt resolve ref e) ts).outcome = .error e

/-- What stops at a reference has its failure. -/
theorem Stops.outcome_eq {ref : String} (h : Stops read resolve ref) {e : Failure}
    (he : resolve ref = .error e) : (read resolve).outcome = .error e := by
  have hsame : failingAt resolve ref e = resolve := by
    funext s
    by_cases hs : s = ref
    · rw [failingAt, if_pos hs, hs, he]
    · rw [failingAt, if_neg hs]
  have hstop := h e
  rwa [hsame] at hstop

/-- A reading that stops at a reference has its failure. -/
theorem StopsAt.outcome_eq {ref : String} (h : StopsAt resolve ts ref) {e : Failure}
    (he : resolve ref = .error e) : (expression resolve ts).outcome = .error e := by
  have hstops : Stops (fun r => expression r ts) resolve ref := h
  exact hstops.outcome_eq he

/-- The reading of a lone reference stops there. -/
theorem stopsAt_reference {ref : String} (href : ∀ c, ref.toList ≠ [c]) :
    StopsAt resolve [⟨.cellReference, ref⟩] ref := by
  intro e
  have hwhole : Segment.Whole "+-*/" [⟨.cellReference, ref⟩] :=
    Segment.whole_singleton (fun c hc _ => href c hc)
  rw [expression_of_whole (by simp) hwhole, factor_singleton, single, resolveNoting, failingAt,
    if_pos rfl]
  rfl

/-- The resolver that **blames** every reference without a number, so that its failures name
the reference. -/
def blaming (resolve : String → Except Failure Float) (ref : String) : Except Failure Float :=
  match resolve ref with
  | .ok x => .ok x
  | .error _ => .error (.fault (.invalidReference ref .malformed))

/-- A resolver that blames each reference fails by calling it malformed. -/
theorem blaming_eq_error {ref : String} {e : Failure} (h : blaming resolve ref = .error e) :
    e = .fault (.invalidReference ref .malformed) := by
  cases href : resolve ref with
  | ok x =>
      rw [blaming, href] at h
      cases h
  | error e' =>
      rw [blaming, href] at h
      exact (Except.error.inj h).symm

/-- A resolver that blames references has the same numbers. -/
theorem blaming_eq_ok_iff {ref : String} {x : Float} :
    blaming resolve ref = .ok x ↔ resolve ref = .ok x := by
  cases href : resolve ref with
  | ok y => rw [blaming, href]
  | error e => simp [blaming, href]

/-- Outcomes that are alike, one of them a failure. -/
theorem Alike.error_cases {e : Failure} {y : Except Failure α}
    (h : Alike r₁ r₂ refs (.error e) y) :
    (InForm e ∧ y = .error e) ∨
    ∃ ref e', refs ref ∧ r₁ ref = .error e ∧ r₂ ref = .error e' ∧ y = .error e' := by
  cases h with
  | refused hf => exact Or.inl ⟨⟨_, rfl, hf⟩, rfl⟩
  | stopped href h₁ h₂ => exact Or.inr ⟨_, _, href, h₁, h₂, rfl⟩

/-- When the blame falls on a reference, a uniform way to read stops there. -/
theorem Uniform.stops_of_blaming (huniform : Uniform ts read) {ref : String}
    (href : (resolve ref).isOk = false)
    (h : (read (blaming resolve)).outcome = .error (.fault (.invalidReference ref .malformed))) :
    Stops read resolve ref := by
  intro e
  have hsame : SameNumbers (blaming resolve) (failingAt resolve ref e) (fun _ => True) := by
    intro s _ x
    rw [blaming_eq_ok_iff, failingAt]
    by_cases hs : s = ref
    · subst hs
      rw [if_pos rfl]
      refine ⟨fun hx => ?_, fun hx => by cases hx⟩
      rw [hx] at href
      cases href
    · rw [if_neg hs]
  have hcovers : Covers (fun _ => True) ts := fun _ _ _ => trivial
  have hstep := huniform _ _ _ hsame hcovers
  rw [InStep, h] at hstep
  obtain ⟨⟨f, hf, hform⟩, -⟩ | ⟨s, e', -, hblame, hfail, heq⟩ := hstep.error_cases
  · obtain rfl := Failure.fault.inj hf
    cases hform
  · have hname := blaming_eq_error hblame
    obtain ⟨rfl, -⟩ := Fault.invalidReference.inj (Failure.fault.inj hname)
    rw [failingAt, if_pos rfl] at hfail
    obtain rfl := Except.error.inj hfail
    exact heq

/-- Every failure of a uniform way to read is a fault in form, or the failure of a reference among
the tokens, at which it stops. -/
theorem Uniform.failure_cases (huniform : Uniform ts read) {e : Failure}
    (h : (read resolve).outcome = .error e) :
    InForm e ∨ ∃ t ∈ ts, t.kind = .cellReference ∧ resolve t.text = .error e ∧
      Stops read resolve t.text := by
  have hsame : SameNumbers resolve (blaming resolve)
      (fun ref => ∃ t ∈ ts, t.kind = .cellReference ∧ t.text = ref) :=
    fun _ _ _ => blaming_eq_ok_iff.symm
  have hcovers : Covers (fun ref => ∃ t ∈ ts, t.kind = .cellReference ∧ t.text = ref) ts :=
    fun t ht hkind => ⟨t, ht, hkind, rfl⟩
  have hstep := huniform _ _ _ hsame hcovers
  rw [InStep, h] at hstep
  obtain ⟨hform, -⟩ | ⟨ref, e', ⟨t, ht, hkind, rfl⟩, hfail, hblame, heq⟩ := hstep.error_cases
  · exact Or.inl hform
  · refine Or.inr ⟨t, ht, hkind, hfail, huniform.stops_of_blaming (by rw [hfail]; rfl) ?_⟩
    rw [heq, blaming_eq_error hblame]

/-- **Every failure of a reading** is a fault in form, or the failure of a reference among
the tokens, at which the reading stops. -/
theorem failure_cases {e : Failure} (h : (expression resolve ts).outcome = .error e) :
    InForm e ∨ ∃ t ∈ ts, t.kind = .cellReference ∧ resolve t.text = .error e ∧
      StopsAt resolve ts t.text :=
  (uniform_expression ts).failure_cases h

end Reading

end SheetFormula
