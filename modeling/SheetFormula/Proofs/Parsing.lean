import SheetFormula.Computation
import SheetFormula.Proofs.Readings
import SheetFormula.Proofs.References

/-!
# The Reader and the Grammar

Tokens are read as a formula exactly when they are derived from the grammar with that
formula. In particular every derivation of some tokens writes the same formula.

The proof goes along the recursion of the reader in one direction, and along the rules of
derivation in the other. Both meet at a chain of runs that grows by one run at its end: the
reader puts one more operation on top, and so does the grammar.

## Main results

* `derives_of_expression`: what is read is derived.
* `reads_of_derives`: what is derived is read.
* `parse_eq_ok_iff_derives`: **the reader recognises the grammar**.
-/

namespace SheetFormula

namespace Reading

variable {resolve : String → Except Failure Float}

/-! ### What is read is derived -/

/-- A term that fills a slot is read as a term. -/
theorem derives_term_of_slot {ts : List Token} {f : Formula Float} (hne : ts ≠ [])
    (h : Derives resolve .slot ts f) : Derives resolve .term ts f := by
  cases h with
  | emptySlot => exact absurd rfl hne
  | filledSlot h => exact h

/-- A chain of slots that are read is a sum. -/
theorem derives_sum_of_chained {c : Chain} (hcut : c.Cut "+-")
    (ih : ∀ run ∈ c.runs, ∀ f, (slot resolve run).outcome = .ok f →
      Derives resolve .slot run f)
    {f : Formula Float} (h : (chained (slot resolve) c).outcome = .ok f) :
    Derives resolve .sum c.tokens f :=
  chained_induction hcut (fun f hf => .oneSlot (ih c.first List.mem_cons_self f hf))
    (fun _ _ _ us r hts ht hus hr =>
      .moreSlots hts (Token.separates_adds_iff.mp ht) (ih us hus r hr)) h

/-- A chain of factors that are read is a term. -/
theorem derives_term_of_chained {c : Chain} (hcut : c.Cut "*/")
    (ih : ∀ run ∈ c.runs, ∀ f, (operand resolve run).outcome = .ok f →
      Derives resolve .factor run f)
    {f : Formula Float} (h : (chained (operand resolve) c).outcome = .ok f) :
    Derives resolve .term c.tokens f :=
  chained_induction hcut (fun f hf => .oneFactor (ih c.first List.mem_cons_self f hf))
    (fun _ _ _ us r hts ht hus hr =>
      .moreFactors hts (Token.separates_multiplies_iff.mp ht) (ih us hus r hr)) h

/-- A sum whose last slot is not empty is an expression. -/
theorem derives_expression_of_chained {c : Chain} (hproper : c.Proper "+-")
    (ih : ∀ run ∈ c.runs, ∀ f, (slot resolve run).outcome = .ok f →
      Derives resolve .slot run f)
    {f : Formula Float} (h : (chained (slot resolve) c).outcome = .ok f) :
    Derives resolve .expression c.tokens f := by
  obtain ⟨first, rest⟩ := c
  induction rest using List.reverseRecOn with
  | nil =>
      rw [chained_singleton] at h
      rw [Chain.tokens_singleton]
      exact .ofTerm (derives_term_of_slot hproper.last_ne (ih first List.mem_cons_self f h))
  | append_singleton rest p _ =>
      obtain ⟨t, us⟩ := p
      obtain ⟨hcut, ht, -⟩ := Chain.cut_append_iff.mp hproper.toCut
      have hus : us ≠ [] := by
        have := hproper.last_ne
        rwa [Chain.last_append] at this
      rw [Chain.runs_append] at ih
      simp only [chained_append, Trace.outcome_bind_eq_ok_iff] at h
      obtain ⟨l, hl, r, hr, hf⟩ := h
      obtain rfl := Except.ok.inj hf
      have hsum : Derives resolve .sum (Chain.tokens ⟨first, rest⟩) l :=
        derives_sum_of_chained hcut (fun run hrun => ih run (List.mem_append_left _ hrun)) hl
      have hslot : Derives resolve .slot us r :=
        ih us (List.mem_append_right _ (List.mem_singleton_self us)) r hr
      rw [Chain.tokens_append]
      exact .ofSum hsum (Token.separates_adds_iff.mp ht) (derives_term_of_slot hus hslot)

/-- A chain of expressions that are read are arguments. -/
theorem derives_arguments_of_mapM {g : Function} {first : List Token}
    {rest : List (Token × List Token)} (hcut : Chain.Cut "," ⟨first, rest⟩)
    (ih : ∀ run ∈ Chain.runs ⟨first, rest⟩, ∀ f, (expression resolve run).outcome = .ok f →
      Derives resolve .expression run f)
    {args : List (Formula Float)}
    (h : ((Chain.runs ⟨first, rest⟩).mapM (expression resolve)).outcome = .ok args) :
    Derives resolve (.arguments g) (Chain.tokens ⟨first, rest⟩) (.call g args) := by
  induction rest using List.reverseRecOn generalizing args with
  | nil =>
      simp only [Chain.runs, List.map_nil, List.mapM_cons, List.mapM_nil,
        Trace.outcome_bind_eq_ok_iff] at h
      obtain ⟨f, hf, _, hnil, hargs⟩ := h
      obtain rfl := Except.ok.inj hnil
      obtain rfl := Except.ok.inj hargs
      rw [Chain.tokens_singleton]
      exact .oneArgument (ih first (by simp [Chain.runs]) f hf)
  | append_singleton rest p ihrest =>
      obtain ⟨t, us⟩ := p
      obtain ⟨hcut, ht, -⟩ := Chain.cut_append_iff.mp hcut
      rw [Chain.runs_append] at ih h
      simp only [List.mapM_append, List.mapM_cons, List.mapM_nil,
        Trace.outcome_bind_eq_ok_iff] at h
      obtain ⟨fs, hfs, _, ⟨f, hf, _, hnil, hone⟩, hargs⟩ := h
      obtain rfl := Except.ok.inj hnil
      obtain rfl := Except.ok.inj hone
      obtain rfl := Except.ok.inj hargs
      rw [Chain.tokens_append]
      refine .moreArguments (ihrest hcut (fun run hrun => ih run ?_) hfs)
        (Token.separates_comma_iff.mp ht) (ih us ?_ f hf)
      · exact List.mem_append_left _ hrun
      · exact List.mem_append_right _ (List.mem_singleton_self us)

/-- What a call reads is derived as a factor. -/
theorem derives_factor_of_call {t : Token} {r : List Token} (ht : t.kind = .functionName)
    (ih : ∀ g runs, callOf (t :: r) = .ok (g, runs) → ∀ run ∈ runs, ∀ f,
      (expression resolve run).outcome = .ok f → Derives resolve .expression run f)
    {f : Formula Float} (h : (call resolve (t :: r)).outcome = .ok f) :
    Derives resolve .factor (t :: r) f := by
  obtain ⟨g, runs, args, hcall, hargs, htakes, rfl⟩ := call_eq_ok_iff.mp h
  obtain ⟨u, c, -, hts, hname, hproper, rfl⟩ := callOf_eq_ok_iff.mp hcall
  obtain ⟨rfl, rfl⟩ := List.cons.inj hts
  exact .call ht hname (derives_arguments_of_mapM hproper.toCut (ih g c.runs hcall) hargs) htakes

/-- What a single token is read as can be derived as a factor. -/
theorem derives_factor_of_single {t : Token} {f : Formula Float}
    (h : (single resolve t).outcome = .ok f) : Derives resolve .factor [t] f := by
  obtain ⟨x, rfl, ⟨ht, hx⟩ | ⟨ht, hx⟩⟩ := single_eq_ok_iff.mp h
  · exact .number ht hx
  · exact .reference ht hx

/-- **What is read is derived.** -/
theorem derives_of_expression {ts : List Token} {f : Formula Float}
    (h : (expression resolve ts).outcome = .ok f) : Derives resolve .expression ts f := by
  have hlevels := levels
    (E := fun ts => ∀ f, (expression resolve ts).outcome = .ok f →
      Derives resolve .expression ts f)
    (S := fun ts => ∀ f, (slot resolve ts).outcome = .ok f → Derives resolve .slot ts f)
    (T := fun ts => ∀ f, (term resolve ts).outcome = .ok f → Derives resolve .term ts f)
    (O := fun ts => ∀ f, (operand resolve ts).outcome = .ok f → Derives resolve .factor ts f)
    (F := fun ts => ∀ f, (factor resolve ts).outcome = .ok f → Derives resolve .factor ts f)
    (C := fun ts => ∀ t r, ts = t :: r → t.kind = .functionName → ∀ f,
      (call resolve ts).outcome = .ok f → Derives resolve .factor ts f)
    ?_ ?_ ?_ ?_ ?_ ?_
  · exact hlevels.1 ts f h
  · intro ts ih f h
    obtain ⟨c, hc, hf⟩ := expression_eq_ok_iff.mp h
    obtain ⟨rfl, hproper⟩ := (chainOf_eq_ok_iff plain_adds).mp hc
    exact derives_expression_of_chained hproper (ih c hc) hf
  · intro ts ih f h
    by_cases hts : ts = []
    · subst hts
      rw [slot_nil] at h
      obtain rfl := Except.ok.inj h
      exact .emptySlot
    · rw [slot_of_ne_nil hts] at h
      exact .filledSlot (ih hts f h)
  · intro ts ih f h
    obtain ⟨c, hc, hf⟩ := term_eq_ok_iff.mp h
    obtain ⟨rfl, hproper⟩ := (chainOf_eq_ok_iff plain_multiplies).mp hc
    exact derives_term_of_chained hproper.toCut (ih c hc) hf
  · intro ts ih f h
    by_cases hts : ts = []
    · subst hts
      rw [operand_nil] at h
      cases h
    · rw [operand_of_ne_nil hts] at h
      exact ih hts f h
  · intro ts ihgroup ihcall f h
    obtain ⟨t, rfl, heq⟩ | ⟨inner, rfl, heq⟩ | ⟨t, r, rfl, hr, ht, heq⟩ | ⟨-, heq⟩ | ⟨-, heq⟩ :=
      factor_cases ts
    · rw [heq] at h
      exact derives_factor_of_single h
    · rw [heq] at h
      exact .group (ihgroup inner rfl f h)
    · rw [heq] at h
      exact ihcall t r rfl hr ht t r rfl ht f h
    · rw [heq] at h
      cases h
    · rw [heq] at h
      cases h
  · rintro ts ih t r rfl ht f h
    exact derives_factor_of_call ht ih h

/-! ### What is derived is read -/

/-- Some tokens are **read as a chain** when they are the runs of a cut chain, whose last run
is not empty unless that is allowed, and the chain is read. -/
def ReadsChain (separators : String) (mayVanish : Prop)
    (read : List Token → Reading (Formula Float)) (ts : List Token) (f : Formula Float) : Prop :=
  ∃ c : Chain, c.tokens = ts ∧ c.Cut separators ∧
    (mayVanish ∨ Chain.last c.first c.rest ≠ []) ∧ (chained read c).outcome = .ok f

/-- What the reader does with tokens that are derived from a symbol. -/
def Reads (resolve : String → Except Failure Float) :
    Symbol → List Token → Formula Float → Prop
  | .expression, ts, f => (expression resolve ts).outcome = .ok f
  | .sum, ts, f => ReadsChain "+-" True (slot resolve) ts f
  | .slot, ts, f => (slot resolve ts).outcome = .ok f
  | .term, ts, f => ReadsChain "*/" False (operand resolve) ts f
  | .factor, ts, f => (factor resolve ts).outcome = .ok f
  | .arguments g, ts, f => ∃ (c : Chain) (args : List (Formula Float)),
      c.tokens = ts ∧ c.Proper "," ∧
      (c.runs.mapM (expression resolve)).outcome = .ok args ∧ f = .call g args

variable {separators : String} {mayVanish : Prop}
  {read : List Token → Reading (Formula Float)}

/-- A chain of one run is read as its run is. -/
theorem ReadsChain.singleton {ts : List Token} {f : Formula Float}
    (hwhole : Segment.Whole separators ts) (hne : mayVanish ∨ ts ≠ [])
    (h : (read ts).outcome = .ok f) : ReadsChain separators mayVanish read ts f :=
  ⟨⟨ts, []⟩, Chain.tokens_singleton ts, Chain.cut_singleton hwhole, hne,
    by rw [chained_singleton]; exact h⟩

/-- A chain that is read goes on with a separator and a run that is read. -/
theorem ReadsChain.append {ts us : List Token} {t : Token} {l r : Formula Float}
    (h : ReadsChain separators mayVanish read ts l)
    (ht : Segment.separates separators.toList t = true) (hwhole : Segment.Whole separators us)
    {longer : Prop} (hne : longer ∨ us ≠ []) (hr : (read us).outcome = .ok r) :
    ReadsChain separators longer read (ts ++ t :: us) (.binary t.text l r) := by
  obtain ⟨⟨first, rest⟩, rfl, hcut, -, hl⟩ := h
  refine ⟨⟨first, rest ++ [(t, us)]⟩, Chain.tokens_append first us rest t,
    Chain.cut_append_iff.mpr ⟨hcut, ht, hwhole⟩, ?_, ?_⟩
  · rwa [Chain.last_append]
  · simp only [chained_append, Trace.outcome_bind_eq_ok_iff]
    exact ⟨l, hl, r, hr, rfl⟩

/-- Slots between signs that add are read as an expression. -/
theorem ReadsChain.expression {ts : List Token} {f : Formula Float}
    (h : ReadsChain "+-" False (slot resolve) ts f) :
    (Reading.expression resolve ts).outcome = .ok f := by
  obtain ⟨c, htokens, hcut, hlast, hf⟩ := h
  have hproper : c.Proper "+-" := ⟨hcut, hlast.resolve_left id⟩
  exact expression_eq_ok_iff.mpr ⟨c, (chainOf_eq_ok_iff plain_adds).mpr ⟨htokens, hproper⟩, hf⟩

/-- Operands between signs that multiply are read as a term. -/
theorem ReadsChain.term {ts : List Token} {f : Formula Float}
    (h : ReadsChain "*/" False (operand resolve) ts f) :
    (Reading.term resolve ts).outcome = .ok f := by
  obtain ⟨c, htokens, hcut, hlast, hf⟩ := h
  have hproper : c.Proper "*/" := ⟨hcut, hlast.resolve_left id⟩
  exact term_eq_ok_iff.mpr
    ⟨c, (chainOf_eq_ok_iff plain_multiplies).mpr ⟨htokens, hproper⟩, hf⟩

/-- **What is derived is read.** -/
theorem reads_of_derives (hresolve : Referring resolve) {s : Symbol} {ts : List Token}
    {f : Formula Float} (h : Derives resolve s ts f) : Reads resolve s ts f := by
  induction h with
  | ofTerm h ih =>
      have hne := h.ne_nil.resolve_left id
      refine (ReadsChain.singleton ((h.whole hresolve).of_subset (by decide))
        (Or.inr hne) ?_).expression
      rw [slot_of_ne_nil hne]
      exact ih.term
  | ofSum _ ht h ihl ihr =>
      have hne := h.ne_nil.resolve_left id
      refine (ReadsChain.append ihl (Token.separates_adds_iff.mpr ht)
        ((h.whole hresolve).of_subset (by decide)) (Or.inr hne) ?_).expression
      rw [slot_of_ne_nil hne]
      exact ihr.term
  | oneSlot h ih =>
      exact .singleton ((h.whole hresolve).of_subset (by decide)) (Or.inl trivial) ih
  | moreSlots _ ht h ihl ihr =>
      exact .append ihl (Token.separates_adds_iff.mpr ht)
        ((h.whole hresolve).of_subset (by decide)) (Or.inl trivial) ihr
  | emptySlot => exact congrArg Trace.outcome slot_nil
  | filledSlot h ih =>
      change (slot resolve _).outcome = _
      rw [slot_of_ne_nil (h.ne_nil.resolve_left id)]
      exact ih.term
  | oneFactor h ih =>
      have hne := h.ne_nil.resolve_left id
      refine .singleton ((h.whole hresolve).of_subset (by decide)) (Or.inr hne) ?_
      rw [operand_of_ne_nil hne]
      exact ih
  | moreFactors _ ht h ihl ihr =>
      have hne := h.ne_nil.resolve_left id
      refine .append ihl (Token.separates_multiplies_iff.mpr ht)
        ((h.whole hresolve).of_subset (by decide)) (Or.inr hne) ?_
      rw [operand_of_ne_nil hne]
      exact ihr
  | number ht hx =>
      change (factor resolve _).outcome = _
      rw [factor_singleton, single_eq_ok_iff]
      exact ⟨_, rfl, Or.inl ⟨ht, hx⟩⟩
  | reference ht hx =>
      change (factor resolve _).outcome = _
      rw [factor_singleton, single_eq_ok_iff]
      exact ⟨_, rfl, Or.inr ⟨ht, hx⟩⟩
  | group _ ih =>
      change (factor resolve _).outcome = _
      rw [factor_group]
      exact ih
  | @call t g ts args ht hname _ htakes ih =>
      obtain ⟨c, _, rfl, hproper, hargs, hcall⟩ := ih
      obtain ⟨-, rfl⟩ := Formula.call.inj hcall
      have hopen : t ≠ Token.openParen := by
        rintro rfl
        cases ht
      change (factor resolve _).outcome = _
      rw [factor_call ht (by simp), call_eq_ok_iff]
      exact ⟨g, c.runs, args, callOf_eq_ok_iff.mpr ⟨t, c, hopen, rfl, hname, hproper, rfl⟩,
        hargs, htakes, rfl⟩
  | @oneArgument g ts f h ih =>
      refine ⟨⟨ts, []⟩, [f], Chain.tokens_singleton ts,
        ⟨Chain.cut_singleton (h.whole hresolve), h.ne_nil.resolve_left id⟩, ?_, rfl⟩
      simp only [Chain.runs, List.map_nil, List.mapM_cons, List.mapM_nil,
        Trace.outcome_bind_eq_ok_iff]
      exact ⟨f, ih, [], rfl, rfl⟩
  | @moreArguments g ts us t args f _ ht h ihl ihr =>
      obtain ⟨⟨first, rest⟩, _, rfl, hproper, hargs, hcall⟩ := ihl
      obtain ⟨-, rfl⟩ := Formula.call.inj hcall
      refine ⟨⟨first, rest ++ [(t, us)]⟩, args ++ [f], Chain.tokens_append first us rest t,
        ⟨Chain.cut_append_iff.mpr ⟨hproper.toCut, Token.separates_comma_iff.mpr ht,
          h.whole hresolve⟩, ?_⟩, ?_, rfl⟩
      · rw [Chain.last_append]
        exact h.ne_nil.resolve_left id
      · simp only [Chain.runs_append, List.mapM_append, List.mapM_cons, List.mapM_nil,
          Trace.outcome_bind_eq_ok_iff]
        exact ⟨args, hargs, [f], ⟨f, ihr, [], rfl, rfl⟩, rfl⟩

/-- What is read is what is derived, whatever gives the numbers of references. -/
theorem expression_eq_ok_iff_derives (hresolve : Referring resolve) {ts : List Token}
    {f : Formula Float} :
    (expression resolve ts).outcome = .ok f ↔ Derives resolve .expression ts f :=
  ⟨derives_of_expression, reads_of_derives hresolve⟩

end Reading

namespace Computation

/-- The notes of parsing are no part of its outcome. -/
theorem outcome_parse (grid : Option Grid) (ts : List Token) :
    (parse grid ts).outcome = (Reading.expression (resolve grid) ts).outcome := by
  simp only [parse, Trace.outcome_bind, Trace.outcome_mapNotes, Trace.outcome_note,
    Trace.outcome_pure]
  cases (Reading.expression (resolve grid) ts).outcome <;> rfl

/-- Tokens are read as a formula exactly when they are derived from the grammar with it. -/
theorem outcome_parse_eq_ok_iff {grid : Option Grid} {ts : List Token} {f : Formula Float} :
    (parse grid ts).outcome = .ok f ↔ Derives (resolve grid) .expression ts f := by
  rw [outcome_parse]
  exact Reading.expression_eq_ok_iff_derives (referring_resolve grid)

/-- A text is read as a formula exactly when its tokens are derived from the grammar with it. -/
theorem outcome_read_eq_ok_iff {grid : Option Grid} {text : String} {ts : List Token}
    (htokens : tokenize text = .ok ts) {f : Formula Float} :
    (read grid text).outcome = .ok f ↔ Derives (resolve grid) .expression ts f := by
  rw [read, htokens]
  exact outcome_parse_eq_ok_iff

/-- **The parser recognises the grammar.** It answers with a formula exactly when the tokens
are derived from the grammar with that formula, and no other formula is derived from
them. -/
theorem parse_eq_ok_iff_derives (grid : Option Grid) (ts : List Token) :
    (∀ f, (parse grid ts).outcome = .ok f ↔ Derives (resolve grid) .expression ts f) ∧
    (∀ f g, Derives (resolve grid) .expression ts f →
      Derives (resolve grid) .expression ts g → f = g) := by
  refine ⟨fun f => outcome_parse_eq_ok_iff, fun f g hf hg => ?_⟩
  have hok := (outcome_parse_eq_ok_iff.mpr hf).symm.trans (outcome_parse_eq_ok_iff.mpr hg)
  exact Except.ok.inj hok

/-- A single reference is read as the number that it has. -/
theorem parse_reference {grid : Grid} {ref : String} {x : Float}
    (h : resolve (some grid) ref = .ok x) :
    (parse (some grid) [⟨.cellReference, ref⟩]).outcome = .ok (.leaf x) := by
  have hreference : Derives (resolve (some grid)) .term [⟨.cellReference, ref⟩] (.leaf x) :=
    .oneFactor (.reference rfl h)
  exact outcome_parse_eq_ok_iff.mpr hreference.ofTerm

end Computation

end SheetFormula
