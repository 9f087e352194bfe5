import SheetFormula.Proofs.Readings

/-!
# Readings of Replaced Tokens

The reader looks for signs, parentheses and names of functions, and leaves all other tokens to
be read one by one. So when some of these others are replaced by tokens that are none of the
former either, tokens are cut at the same places as before, and both readings take the same way
at every level. They correspond: they answer alike, or both have the same fault in the form of
their tokens, or both stop at a token and at what it was replaced by.

The two readings may resolve references differently. All that has to be known of resolving and
of numbers is that each token corresponds to what it was replaced by, as an operand.

## Main results

* `Segment.cutFrom?_map`: **cutting commutes with a replacement** that keeps the form.
* `Reading.corresponds_chainOf`, `Reading.corresponds_callOf`: so does taking chains and calls
  apart.
* `Reading.corresponds_levels`, `Reading.corresponds_expression`: **readings correspond** when they
  do so at each token.
-/

namespace SheetFormula

namespace Token

/-- A token is **inert** when it is neither the name of a function nor, by its text, a sign or a
parenthesis. -/
def Inert (t : Token) : Prop :=
  t.kind ≠ .functionName ∧ ∀ c ∈ '(' :: ')' :: "+-*/,".toList, t.text.toList ≠ [c]

/-- A replacement of tokens **keeps the form** when it changes inert tokens only, and only to
inert ones. -/
def KeepsForm (φ : Token → Token) : Prop := ∀ t, φ t = t ∨ t.Inert ∧ (φ t).Inert

/-- Replacing nothing keeps the form of tokens. -/
theorem keepsForm_id : KeepsForm id := fun _ => Or.inl rfl

variable {φ : Token → Token} {t u : Token}

/-- An opening parenthesis is not inert. -/
theorem not_inert_openParen : ¬ openParen.Inert := fun h => h.2 '(' (by decide) rfl

/-- A closing parenthesis is not inert. -/
theorem not_inert_closeParen : ¬ closeParen.Inert := fun h => h.2 ')' (by decide) rfl

/-- A token that separates is not inert. -/
theorem not_inert_of_separates {separators : List Char} (hsigns : separators ⊆ "+-*/,".toList)
    (h : Segment.separates separators t = true) : ¬ t.Inert := by
  obtain ⟨c, hc, htext⟩ := Segment.separates_iff.mp h
  exact fun hinert => hinert.2 c (List.mem_cons_of_mem _ (List.mem_cons_of_mem _ (hsigns hc))) htext

namespace KeepsForm

/-- A token that is not inert stays, and no other token is replaced by it. -/
theorem eq_iff (hφ : KeepsForm φ) (hu : ¬ u.Inert) : φ t = u ↔ t = u := by
  obtain hsame | ⟨ht, hφt⟩ := hφ t
  · rw [hsame]
  · refine iff_of_false ?_ ?_
    · rintro rfl
      exact hu hφt
    · rintro rfl
      exact hu ht

/-- A token that is not inert is not replaced. -/
theorem eq_self (hφ : KeepsForm φ) (ht : ¬ t.Inert) : φ t = t := (hφ.eq_iff ht).mpr rfl

/-- The name of a function stays, and no other token is replaced by one. -/
theorem kind_eq_functionName_iff (hφ : KeepsForm φ) :
    (φ t).kind = .functionName ↔ t.kind = .functionName := by
  obtain hsame | ⟨ht, hφt⟩ := hφ t
  · rw [hsame]
  · exact iff_of_false hφt.1 ht.1

/-- The name of a function is not replaced. -/
theorem eq_self_of_functionName (hφ : KeepsForm φ) (ht : t.kind = .functionName) : φ t = t :=
  hφ.eq_self fun h => h.1 ht

/-- The signs and parentheses stand where they stood. -/
theorem toList_eq_iff (hφ : KeepsForm φ) {c : Char} (hc : c ∈ '(' :: ')' :: "+-*/,".toList) :
    (φ t).text.toList = [c] ↔ t.text.toList = [c] := by
  obtain hsame | ⟨ht, hφt⟩ := hφ t
  · rw [hsame]
  · exact iff_of_false (hφt.2 c hc) (ht.2 c hc)

/-- Replacing tokens keeps the depth of parentheses. -/
theorem depthAfter_eq (hφ : KeepsForm φ) (depth : Nat) (t : Token) :
    Segment.depthAfter depth (φ t) = Segment.depthAfter depth t := by
  have hopen : (φ t).isChar '(' = t.isChar '(' := by
    rw [Bool.eq_iff_iff, Segment.isChar_iff, Segment.isChar_iff]
    exact hφ.toList_eq_iff (by decide)
  have hclose : (φ t).isChar ')' = t.isChar ')' := by
    rw [Bool.eq_iff_iff, Segment.isChar_iff, Segment.isChar_iff]
    exact hφ.toList_eq_iff (by decide)
  rw [Segment.depthAfter, Segment.depthAfter, hopen, hclose]

/-- Replacing tokens keeps what separates. -/
theorem separates_eq (hφ : KeepsForm φ) {separators : List Char}
    (hsigns : separators ⊆ "+-*/,".toList) (t : Token) :
    Segment.separates separators (φ t) = Segment.separates separators t := by
  rw [Bool.eq_iff_iff, Segment.separates_iff, Segment.separates_iff]
  refine exists_congr fun c => and_congr_right fun hc => hφ.toList_eq_iff ?_
  exact List.mem_cons_of_mem _ (List.mem_cons_of_mem _ (hsigns hc))

end KeepsForm

end Token

/-! ### Cutting replaced tokens -/

section

variable {φ : Token → Token}

/-- A segment with its tokens replaced. -/
def Segment.map (φ : Token → Token) (s : Segment) : Segment := ⟨s.tokens.map φ, s.separator⟩

/-- A chain with the tokens of its runs replaced. -/
def Chain.map (φ : Token → Token) (c : Chain) : Chain :=
  ⟨c.first.map φ, c.rest.map fun p => (p.1, p.2.map φ)⟩

/-- Prepending a token and replacing tokens can be done in either order. -/
theorem Segment.prepend_map (t : Token) (ss : List Segment) :
    prepend (φ t) (ss.map (map φ)) = (prepend t ss).map (map φ) := by
  cases ss <;> rfl

/-- **Cutting commutes with a replacement** that keeps the form. -/
theorem Segment.cutFrom?_map (hφ : Token.KeepsForm φ) {separators : List Char}
    (hsigns : separators ⊆ "+-*/,".toList) (depth : Nat) (ts : List Token) :
    cutFrom? separators depth (ts.map φ) =
      (cutFrom? separators depth ts).map (List.map (map φ)) := by
  induction ts generalizing depth with
  | nil =>
      rw [List.map_nil, cutFrom?]
      split <;> rfl
  | cons t r ih =>
      rw [List.map_cons, cutFrom?_cons, cutFrom?_cons, hφ.depthAfter_eq, hφ.separates_eq hsigns]
      cases depthAfter depth t with
      | none => rfl
      | some inner =>
          simp only [Option.bind_some]
          split
          · rename_i hcut
            rw [hφ.eq_self (Token.not_inert_of_separates hsigns hcut.2), ih, Option.map_map,
              Option.map_map]
            rfl
          · rw [ih, Option.map_map, Option.map_map]
            exact congrArg (Option.map · _) (funext (prepend_map t))

/-- The chain of replaced segments. -/
theorem Chain.ofSegments_map (ss : List Segment) :
    ofSegments (ss.map (Segment.map φ)) = (ofSegments ss).map (map φ) := by
  induction ss with
  | nil => rfl
  | cons s r ih =>
      obtain ⟨run, separator⟩ := s
      cases r with
      | nil => cases separator <;> rfl
      | cons s' r =>
          rw [List.map_cons] at ih
          simp only [List.map_cons, ofSegments, ih]
          cases ofSegments (s' :: r) <;> cases separator <;> rfl

end

/-! ### Outcomes that correspond -/

namespace Fault

/-- Whether a fault blames the text of an operand, a reference or a number. -/
def blamesOperand : Fault → Bool
  | .invalidReference _ _ | .invalidNumber _ => true
  | _ => false

/-- A fault as it is for replaced tokens. -/
def map (φ : Token → Token) : Fault → Fault
  | .unexpectedSequence ts => .unexpectedSequence (ts.map φ)
  | f => f

/-- Replacing nothing keeps a fault. -/
theorem map_id (f : Fault) : f.map id = f := by
  cases f with
  | unexpectedSequence ts => rw [map, List.map_id]
  | _ => rfl

/-- A fault for replaced tokens is of the same kind. -/
theorem kind_map (φ : Token → Token) (f : Fault) : (f.map φ).kind = f.kind := by
  cases f with
  | unexpectedSequence ts =>
      have hkind : ∀ us, (unexpectedSequence us).kind = .sequence := fun _ => rfl
      rw [map, hkind, hkind]
  | _ => rfl

end Fault

namespace Reading

variable {φ : Token → Token} {R : Failure → Failure → Prop} {α β γ δ : Type}

/-- Two outcomes **correspond** under a replacement of tokens when the second one answers with
`g` of what the first one does, or both have the same fault in the form of their tokens, or both
stop at tokens with failures that `R` relates. -/
inductive Corresponds (φ : Token → Token) (R : Failure → Failure → Prop) (g : α → β) :
    Except Failure α → Except Failure β → Prop
  | answered (a : α) : Corresponds φ R g (.ok a) (.ok (g a))
  | refused (f : Fault) : f.blamesOperand = false →
      Corresponds φ R g (.error (.fault f)) (.error (.fault (f.map φ)))
  | stopped {e e' : Failure} : R e e' → Corresponds φ R g (.error e) (.error e')

namespace Corresponds

variable {g : α → β} {g' : γ → δ}

/-- **Sequences correspond** when their parts do. -/
theorem bind {x : Except Failure α} {y : Except Failure β} {k : α → Except Failure γ}
    {l : β → Except Failure δ} (hxy : Corresponds φ R g x y)
    (hkl : ∀ a, Corresponds φ R g' (k a) (l (g a))) :
    Corresponds φ R g' (x >>= k) (y >>= l) := by
  cases hxy with
  | answered a => exact hkl a
  | refused f hf => exact .refused f hf
  | stopped h => exact .stopped h

/-- Readings one after the other correspond when each of them does. -/
theorem mapM {k : γ → Reading β} {l : δ → Reading β} {g : γ → δ} {xs : List γ}
    (h : ∀ x ∈ xs, Corresponds φ R id (k x).outcome (l (g x)).outcome) :
    Corresponds φ R id (xs.mapM k).outcome ((xs.map g).mapM l).outcome := by
  induction xs with
  | nil => exact .answered []
  | cons x r ih =>
      simp only [List.map_cons, List.mapM_cons, Trace.outcome_bind]
      refine (h x List.mem_cons_self).bind fun a => (ih fun y hy => ?_).bind fun _ => .answered _
      exact h y (List.mem_cons_of_mem x hy)

/-- Chains correspond when their runs do. -/
theorem chained {read₁ read₂ : List Token → Reading (Formula Float)} {c : Chain}
    (h : ∀ run ∈ c.runs, Corresponds φ R id (read₁ run).outcome (read₂ (run.map φ)).outcome) :
    Corresponds φ R id (Reading.chained read₁ c).outcome
      (Reading.chained read₂ (c.map φ)).outcome := by
  simp only [Reading.chained, Trace.outcome_bind]
  refine (h c.first List.mem_cons_self).bind fun first =>
    (mapM fun p hp => ?_).bind fun _ => .answered _
  simp only [Trace.outcome_bind]
  refine (h p.2 ?_).bind fun _ => .answered _
  exact List.mem_cons_of_mem _ (List.mem_map_of_mem hp)

end Corresponds

/-! ### Taking replaced tokens apart -/

/-- Cutting at separators corresponds to cutting the replaced tokens. -/
theorem corresponds_segments (hφ : Token.KeepsForm φ) {separators : String}
    (hsigns : separators.toList ⊆ "+-*/,".toList) (ts : List Token) :
    Corresponds φ R (List.map (Segment.map φ)) (segments separators ts)
      (segments separators (ts.map φ)) := by
  have hcut : Segment.cut? separators (ts.map φ) =
      (Segment.cut? separators ts).map (List.map (Segment.map φ)) :=
    Segment.cutFrom?_map hφ hsigns 0 ts
  rw [segments, segments, hcut]
  cases Segment.cut? separators ts with
  | none => exact .refused .unbalanced rfl
  | some ss => exact .answered ss

/-- **A chain is taken apart** into the replaced runs of tokens. -/
theorem corresponds_chainOf (hφ : Token.KeepsForm φ) {operators : String}
    (hsigns : operators.toList ⊆ "+-*/,".toList) (ts : List Token) :
    Corresponds φ R (Chain.map φ) (chainOf operators ts) (chainOf operators (ts.map φ)) := by
  rw [chainOf, chainOf]
  refine (corresponds_segments hφ hsigns ts).bind fun ss => ?_
  rw [Chain.ofSegments_map]
  cases Chain.ofSegments ss with
  | ok c => exact .answered c
  | error t =>
      cases t with
      | none => exact .refused .emptyExpression rfl
      | some t => exact .refused (.danglingOperator t.text) rfl

/-- A token that is not inert is first found at the same place. -/
theorem findIdx?_map_eq (hφ : Token.KeepsForm φ) {u : Token} (hu : ¬ u.Inert) (ts : List Token) :
    (ts.map φ).findIdx? (· == u) = ts.findIdx? (· == u) := by
  rw [List.findIdx?_map]
  congr 1
  funext t
  rw [Function.comp_apply, Bool.eq_iff_iff, beq_iff_eq, beq_iff_eq]
  exact hφ.eq_iff hu

/-- The tokens of the arguments correspond. -/
theorem corresponds_argumentTokens (hφ : Token.KeepsForm φ) (name : String) (ts : List Token) :
    Corresponds φ R (List.map φ) (argumentTokens name ts) (argumentTokens name (ts.map φ)) := by
  have hopen : firstOpen? (ts.map φ) = firstOpen? ts :=
    findIdx?_map_eq hφ Token.not_inert_openParen ts
  have hclose : lastClose? (ts.map φ) = lastClose? ts := by
    rw [lastClose?, lastClose?, ← List.map_reverse,
      findIdx?_map_eq hφ Token.not_inert_closeParen, List.length_map]
  rw [argumentTokens, argumentTokens, hopen, hclose, List.length_map, ← List.map_drop,
    ← List.map_dropLast]
  split
  · split
    · exact .refused (.unbalancedCall name) rfl
    · split
      · exact .refused (.unexpectedSequence ts) rfl
      · exact .answered _
  · exact .refused (.unbalancedCall name) rfl

/-- Looking up a function corresponds to itself. -/
theorem corresponds_functionNamed (name : String) :
    Corresponds φ R id (functionNamed name) (functionNamed name) := by
  rw [functionNamed]
  split
  · exact .answered _
  · exact .refused (.unknownFunction name) rfl

/-- The runs of the arguments correspond. -/
theorem corresponds_argumentRuns (hφ : Token.KeepsForm φ) (name : String) (f : Function)
    (inner : List Token) :
    Corresponds φ R (List.map (List.map φ)) (argumentRuns name f inner)
      (argumentRuns name f (inner.map φ)) := by
  rw [argumentRuns, argumentRuns]
  refine (corresponds_segments hφ (by decide) inner).bind fun ss => ?_
  rw [List.getLast?_map]
  cases ss.getLast? with
  | none => exact .refused (.wrongArity f 0) rfl
  | some last =>
      have hruns : (ss.map (Segment.map φ)).map Segment.tokens =
          (ss.map Segment.tokens).map (List.map φ) := by
        rw [List.map_map, List.map_map]
        rfl
      simp only [Option.map_some, Segment.map, hruns]
      split
      · exact .refused (.missingArgument name) rfl
      · exact .answered _

/-- **A call is taken apart** into its function and the replaced runs of tokens, when the token in
the place of its name stays. -/
theorem corresponds_callOf (hφ : Token.KeepsForm φ) {t : Token} (hname : φ t = t)
    (r : List Token) :
    Corresponds φ R (fun p => (p.1, p.2.map (List.map φ))) (callOf (t :: r))
      (callOf ((t :: r).map φ)) := by
  have htokens : Corresponds φ R (List.map φ) (argumentTokens t.text (t :: r))
      (argumentTokens t.text (φ t :: r.map φ)) :=
    corresponds_argumentTokens hφ t.text (t :: r)
  rw [List.map_cons, callOf, callOf, hname]
  rw [hname] at htokens
  refine htokens.bind fun inner => (corresponds_functionNamed t.text).bind fun f => ?_
  exact (corresponds_argumentRuns hφ t.text f inner).bind fun runs => .answered (f, runs)

/-! ### Reading replaced tokens -/

variable {r₁ r₂ : String → Except Failure Float}

variable (φ R r₁ r₂) in
/-- Tokens **correspond** to those that they are replaced by when each of them does so as an
operand. -/
def Matching (ts : List Token) : Prop :=
  ∀ t ∈ ts, Corresponds φ R id (single r₁ t).outcome (single r₂ (φ t)).outcome

/-- Tokens among those that match do match. -/
theorem Matching.of_subset {ts us : List Token} (h : Matching φ R r₁ r₂ ts) (hus : us ⊆ ts) :
    Matching φ R r₁ r₂ us :=
  fun t ht => h t (hus ht)

/-- Chains correspond when each of their runs does. -/
theorem corresponds_chained (hφ : Token.KeepsForm φ) {operators : String}
    (hplain : Segment.Plain operators.toList) (hsigns : operators.toList ⊆ "+-*/,".toList)
    {ts : List Token} (hts : Matching φ R r₁ r₂ ts)
    {read₁ read₂ : List Token → Reading (Formula Float)}
    (h : ∀ c, chainOf operators ts = .ok c → ∀ run ∈ c.runs, Matching φ R r₁ r₂ run →
      Corresponds φ R id (read₁ run).outcome (read₂ (run.map φ)).outcome) :
    Corresponds φ R id
      (match chainOf operators ts with | .error e => throw e | .ok c => chained read₁ c).outcome
      (match chainOf operators (ts.map φ) with
        | .error e => throw e
        | .ok c => chained read₂ c).outcome := by
  have hchains : Corresponds φ R (Chain.map φ) (chainOf operators ts)
      (chainOf operators (ts.map φ)) := corresponds_chainOf hφ hsigns ts
  generalize chainOf operators (ts.map φ) = y at hchains ⊢
  cases hc : chainOf operators ts with
  | error e =>
      rw [hc] at hchains
      cases hchains with
      | refused f hf => exact .refused f hf
      | stopped he => exact .stopped he
  | ok c =>
      rw [hc] at hchains
      cases hchains
      refine .chained fun run hrun => h c hc run hrun (hts.of_subset ?_)
      exact subset_of_chainOf hplain hc run hrun

/-- A call reads its arguments and counts them. -/
theorem corresponds_call (hφ : Token.KeepsForm φ) {t : Token} (hname : φ t = t)
    {r : List Token} (hts : Matching φ R r₁ r₂ (t :: r))
    (h : ∀ g runs, callOf (t :: r) = .ok (g, runs) → ∀ run ∈ runs, Matching φ R r₁ r₂ run →
      Corresponds φ R id (expression r₁ run).outcome (expression r₂ (run.map φ)).outcome) :
    Corresponds φ R id (call r₁ (t :: r)).outcome (call r₂ ((t :: r).map φ)).outcome := by
  have hcalls : Corresponds φ R (fun p => (p.1, p.2.map (List.map φ))) (callOf (t :: r))
      (callOf ((t :: r).map φ)) := corresponds_callOf hφ hname r
  rw [call_eq, call_eq]
  generalize callOf ((t :: r).map φ) = y at hcalls ⊢
  cases hc : callOf (t :: r) with
  | error e =>
      rw [hc] at hcalls
      cases hcalls with
      | refused f hf => exact .refused f hf
      | stopped he => exact .stopped he
  | ok p =>
      obtain ⟨g, runs⟩ := p
      rw [hc] at hcalls
      cases hcalls
      simp only [Trace.outcome_bind]
      refine (Corresponds.mapM fun run hrun => ?_).bind fun args => ?_
      · exact h g runs hc run hrun (hts.of_subset (subset_of_callOf hc run hrun))
      · by_cases htakes : g.takes args.length = true
        · simp only [id, htakes, Bool.not_true, Bool.false_eq_true, if_false]
          exact .answered _
        · simp only [id, htakes, Bool.not_false, if_true]
          exact .refused (.wrongArity g args.length) rfl

/-- Of several tokens, a group stays a group and a call a call. -/
theorem corresponds_factor (hφ : Token.KeepsForm φ) {t u : Token} {r : List Token}
    (hgroup : ∀ inner, t :: u :: r = Token.openParen :: (inner ++ [Token.closeParen]) →
      Corresponds φ R id (expression r₁ inner).outcome (expression r₂ (inner.map φ)).outcome)
    (hcall : t.kind = .functionName → Corresponds φ R id (call r₁ (t :: u :: r)).outcome
      (call r₂ ((t :: u :: r).map φ)).outcome) :
    Corresponds φ R id (factor r₁ (t :: u :: r)).outcome
      (factor r₂ ((t :: u :: r).map φ)).outcome := by
  have henclosed : (φ t = Token.openParen ∧
      ((u :: r).map φ).getLast? = some Token.closeParen) ↔
      (t = Token.openParen ∧ (u :: r).getLast? = some Token.closeParen) := by
    rw [hφ.eq_iff Token.not_inert_openParen, List.getLast?_map, Option.map_eq_some_iff]
    simp only [hφ.eq_iff Token.not_inert_closeParen, exists_eq_right]
  rw [List.map_cons, List.map_cons, factor, factor, ← List.map_cons]
  simp only [henclosed, hφ.kind_eq_functionName_iff]
  split
  · rename_i henclosing
    obtain ⟨rfl, hlast⟩ := henclosing
    rw [← List.map_dropLast]
    refine hgroup _ (congrArg _ ?_)
    exact (List.dropLast_append_getLast? _ hlast).symm
  · split
    · rename_i hkind
      exact hcall hkind
    · exact .refused (.unexpectedSequence (t :: u :: r)) rfl

/-- **Readings correspond at every level** when they do so at each token; for a call, the token in
the place of its name has to stay. -/
theorem corresponds_levels (hφ : Token.KeepsForm φ) :
    (∀ ts, Matching φ R r₁ r₂ ts →
      Corresponds φ R id (expression r₁ ts).outcome (expression r₂ (ts.map φ)).outcome) ∧
    (∀ ts, Matching φ R r₁ r₂ ts →
      Corresponds φ R id (slot r₁ ts).outcome (slot r₂ (ts.map φ)).outcome) ∧
    (∀ ts, Matching φ R r₁ r₂ ts →
      Corresponds φ R id (term r₁ ts).outcome (term r₂ (ts.map φ)).outcome) ∧
    (∀ ts, Matching φ R r₁ r₂ ts →
      Corresponds φ R id (operand r₁ ts).outcome (operand r₂ (ts.map φ)).outcome) ∧
    (∀ ts, Matching φ R r₁ r₂ ts →
      Corresponds φ R id (factor r₁ ts).outcome (factor r₂ (ts.map φ)).outcome) ∧
    (∀ ts t r, ts = t :: r → φ t = t → Matching φ R r₁ r₂ ts →
      Corresponds φ R id (call r₁ ts).outcome (call r₂ (ts.map φ)).outcome) := by
  refine levels ?_ ?_ ?_ ?_ ?_ ?_
  · intro ts ih hts
    rw [expression_eq, expression_eq]
    exact corresponds_chained hφ plain_adds (by decide) hts ih
  · intro ts ih hts
    by_cases hne : ts = []
    · subst hne
      rw [List.map_nil, slot_nil, slot_nil]
      exact .answered _
    · rw [slot_of_ne_nil hne, slot_of_ne_nil (by simpa using hne)]
      exact ih hne hts
  · intro ts ih hts
    rw [term_eq, term_eq]
    exact corresponds_chained hφ plain_multiplies (by decide) hts ih
  · intro ts ih hts
    by_cases hne : ts = []
    · subst hne
      rw [List.map_nil, operand_nil, operand_nil]
      exact .refused .missingOperand rfl
    · rw [operand_of_ne_nil hne, operand_of_ne_nil (by simpa using hne)]
      exact ih hne hts
  · intro ts ihgroup ihcall hts
    match ts with
    | [] =>
        rw [List.map_nil, factor, factor]
        exact .refused .emptyExpression rfl
    | [t] =>
        rw [List.map_singleton, factor_singleton, factor_singleton]
        exact hts t (List.mem_singleton_self t)
    | t :: u :: r =>
        refine corresponds_factor hφ (fun inner hinner => ihgroup inner hinner ?_) fun hkind => ?_
        · rw [hinner] at hts
          exact hts.of_subset fun v hv => List.mem_cons_of_mem _ (List.mem_append_left _ hv)
        · exact ihcall t (u :: r) rfl (List.cons_ne_nil u r) hkind t (u :: r) rfl
            (hφ.eq_self_of_functionName hkind) hts
  · rintro ts ih t r rfl hname hts
    exact corresponds_call hφ hname hts ih

/-- **Readings correspond** when they do so at each token. -/
theorem corresponds_expression (hφ : Token.KeepsForm φ) {ts : List Token}
    (hts : Matching φ R r₁ r₂ ts) :
    Corresponds φ R id (expression r₁ ts).outcome (expression r₂ (ts.map φ)).outcome :=
  (corresponds_levels hφ).1 ts hts

end Reading

end SheetFormula
