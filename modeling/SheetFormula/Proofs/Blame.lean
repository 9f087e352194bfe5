import SheetFormula.Proofs.Parsing
import SheetFormula.Proofs.Splitting
import SheetFormula.Proofs.Trees

/-!
# What a Fault Blames

A fault in the form of a formula shows the tokens that could not be read, the name that calls no
function, or the reference that has no value. All of these are parts of what was to be read, and
not just any parts. Tokens are cut again and again on the way down to a factor, at signs outside
of parentheses and between parentheses that enclose them, so the tokens that are blamed in the end
stand together in the formula, their own parentheses match, and no sign of an operation stands
outside of these.

## Main results

* `Chain.Cut.whole_runs`: cutting a whole run at other separators gives whole runs.
* `Reading.founded_levels`: **every level of reading blames what it reads**.
* `Computation.blames_of_parse`: what the reports of faults show is part of the formula.
-/

namespace SheetFormula

/-! ### Runs that are whole for more separators -/

namespace Segment

variable {separators others joint : String} {run us vs : List Token}

/-- Tokens that could be **a single operand**: they are balanced, and no sign of an operation is
at a level place among them. -/
structure Atomic (block : List Token) : Prop where
  balanced : Balanced block
  signs : ∀ us t vs, block = us ++ t :: vs → OneOf "+-*/" t → ¬ Level us

/-- Tokens are atomic when no operator stands outside of parentheses. -/
theorem atomic_iff {block : List Token} : Atomic block ↔ Whole "+-*/" block := by
  rw [whole_iff ⟨by decide, by decide⟩]
  exact ⟨fun h => ⟨h.balanced, h.signs⟩, fun h => ⟨h.1, h.2⟩⟩

/-- A run that is whole for some separators and for others is whole for both. -/
theorem Whole.both (h : Whole separators run) (h' : Whole others run)
    (hjoint : joint.toList = separators.toList ++ others.toList) : Whole joint run := by
  rw [Whole, pass?_iff] at h h' ⊢
  refine ⟨h.1, fun us t vs hsplit ht => ?_⟩
  obtain ⟨c, hc, htext⟩ := separates_iff.mp ht
  rw [hjoint] at hc
  obtain hc | hc := List.mem_append.mp hc
  · exact h.2 us t vs hsplit (separates_iff.mpr ⟨c, hc, htext⟩)
  · exact h'.2 us t vs hsplit (separates_iff.mpr ⟨c, hc, htext⟩)

/-- A whole run whose beginning is balanced is whole before and behind that place. -/
theorem Whole.of_append (h : Whole separators (us ++ vs)) (hus : pass? [] 0 us = some 0) :
    Whole separators us ∧ Whole separators vs := by
  rw [Whole, pass?_append] at h
  obtain ⟨depth, hdepth, hvs⟩ := Option.bind_eq_some_iff.mp h
  have hzero : pass? [] 0 us = some depth := pass?_of_subset (List.nil_subset _) hdepth
  rw [hus] at hzero
  obtain rfl := Option.some.inj hzero
  exact ⟨hdepth, hvs⟩

end Segment

namespace Chain

variable {operators others : String} {first : List Token} {rest : List (Token × List Token)}

/-- The tokens of a chain are its first run, a separator, and those of the rest. -/
theorem tokens_cons (first next : List Token) (t : Token) (r : List (Token × List Token)) :
    tokens ⟨first, (t, next) :: r⟩ = first ++ ([t] ++ tokens ⟨next, r⟩) := by
  simp [tokens]

/-- The runs of a chain stand together in its tokens. -/
theorem infix_of_mem_runs {run : List Token} (h : run ∈ runs ⟨first, rest⟩) :
    run <:+: tokens ⟨first, rest⟩ := by
  induction rest generalizing first with
  | nil =>
      obtain rfl := List.mem_singleton.mp h
      rw [tokens_singleton]
  | cons p r ih =>
      obtain ⟨t, next⟩ := p
      rw [tokens_cons]
      obtain rfl | h := List.mem_cons.mp h
      · exact (List.prefix_append run _).isInfix
      · have hnext : run <:+: tokens ⟨next, r⟩ := ih h
        have hbehind : run <:+: [t] ++ tokens ⟨next, r⟩ :=
          hnext.trans (List.suffix_append [t] _).isInfix
        exact hbehind.trans (List.suffix_append first _).isInfix

/-- Each run of a cut chain is whole. -/
theorem Cut.whole_of_mem_runs {c : Chain} (hcut : c.Cut operators) :
    ∀ run ∈ c.runs, Segment.Whole operators run := by
  intro run hrun
  obtain rfl | hrun := List.mem_cons.mp hrun
  · exact hcut.first
  · obtain ⟨p, hp, rfl⟩ := List.mem_map.mp hrun
    exact (hcut.rest p hp).2

/-- **Cutting keeps runs whole**: when the tokens of a chain are whole for other separators than
those it is cut at, so is each of its runs. -/
theorem Cut.whole_runs (hplain : Segment.Plain operators.toList)
    (hcut : Cut operators ⟨first, rest⟩) (h : Segment.Whole others (tokens ⟨first, rest⟩)) :
    ∀ run ∈ runs ⟨first, rest⟩, Segment.Whole others run := by
  induction rest generalizing first with
  | nil =>
      intro run hrun
      obtain rfl := List.mem_singleton.mp hrun
      rwa [tokens_singleton] at h
  | cons p r ih =>
      obtain ⟨t, next⟩ := p
      obtain ⟨ht, hnext⟩ := hcut.rest (t, next) List.mem_cons_self
      have hfirst : Segment.pass? [] 0 first = some 0 :=
        Segment.pass?_of_subset (List.nil_subset _) hcut.first
      have hsign : Segment.pass? [] 0 [t] = some 0 := by
        rw [Segment.pass?_cons_nil, Segment.depthAfter_of_separates hplain ht]
        rfl
      rw [tokens_cons] at h
      obtain ⟨hwhole, h⟩ := h.of_append hfirst
      obtain ⟨-, h⟩ := h.of_append hsign
      intro run hrun
      obtain rfl | hrun := List.mem_cons.mp hrun
      · exact hwhole
      · exact ih ⟨hnext, fun q hq => hcut.rest q (List.mem_cons_of_mem _ hq)⟩ h run hrun

end Chain

/-! ### Blame -/

namespace Fault

/-- A fault **blames tokens** that are there: a block of them that could be a single operand, the
name of a function before a parenthesis, or a reference. Other faults blame none. -/
def Blames (ts : List Token) : Fault → Prop
  | .unexpectedToken t | .invalidNumber t => [t] <:+: ts ∧ Segment.Atomic [t]
  | .unexpectedSequence block => 2 ≤ block.length ∧ block <:+: ts ∧ Segment.Atomic block
  | .unknownFunction name => ∃ us t vs, ts = us ++ t :: Token.openParen :: vs ∧
      t.kind = .functionName ∧ t.text = name
  | .invalidReference ref _ => ∃ t ∈ ts, t.kind = .cellReference ∧ t.text = ref
  | _ => True

/-- A fault of a token blames a token or a sequence of them. -/
theorem eq_of_isA_token {f : Fault} (h : f.kind.isA .token = true) :
    (∃ t, f = .unexpectedToken t ∨ f = .invalidNumber t) ∨
      ∃ block, f = .unexpectedSequence block := by
  cases f with
  | unexpectedToken t => exact Or.inl ⟨t, Or.inl rfl⟩
  | invalidNumber t => exact Or.inl ⟨t, Or.inr rfl⟩
  | unexpectedSequence block => exact Or.inr ⟨block, rfl⟩
  | _ => cases h

/-- A fault of a cell blames a reference. -/
theorem eq_of_kind_cell {f : Fault} (h : f.kind = .cell) :
    ∃ ref reason, f = .invalidReference ref reason := by
  cases f with
  | invalidReference ref reason => exact ⟨ref, reason, rfl⟩
  | _ => cases h

/-- A fault of an unknown function blames its name. -/
theorem eq_of_kind_unknownFunction {f : Fault} (h : f.kind = .unknownFunction) :
    ∃ name, f = .unknownFunction name := by
  cases f with
  | unknownFunction name => exact ⟨name, rfl⟩
  | _ => cases h

/-- What is blamed among some tokens is blamed among any in which these stand together. -/
theorem Blames.mono {f : Fault} {us ts : List Token} (h : f.Blames us) (hus : us <:+: ts) :
    f.Blames ts := by
  cases f with
  | unexpectedToken t => exact ⟨h.1.trans hus, h.2⟩
  | invalidNumber t => exact ⟨h.1.trans hus, h.2⟩
  | unexpectedSequence block => exact ⟨h.1, h.2.1.trans hus, h.2.2⟩
  | unknownFunction name =>
      obtain ⟨before, t, after, rfl, ht⟩ := h
      obtain ⟨l, r, rfl⟩ := hus
      exact ⟨l ++ before, t, after ++ r, by simp, ht⟩
  | invalidReference ref reason =>
      obtain ⟨t, hmem, ht⟩ := h
      exact ⟨t, hus.subset hmem, ht⟩
  | _ => trivial

end Fault

namespace Reading

variable {resolve : String → Except Failure Float} {ts : List Token} {f : Fault} {α : Type}

/-- A reading is **founded** in some tokens when each of its faults blames what is among them. -/
def Founded (ts : List Token) (x : Reading α) : Prop :=
  ∀ f, x.outcome = .error (.fault f) → f.Blames ts

/-- What is founded on some tokens is founded on all that these are a part of. -/
theorem Founded.mono {us : List Token} {x : Reading α} (h : Founded us x) (hus : us <:+: ts) :
    Founded ts x :=
  fun f hf => (h f hf).mono hus

/-- A resolver **blames the reference** that it cannot resolve. -/
def BlamesReference (resolve : String → Except Failure Float) : Prop :=
  ∀ ref f, resolve ref = .error (.fault f) → ∃ reason, f = .invalidReference ref reason

/-- A grid blames the reference that it was asked for. -/
theorem blamesReference_resolve (grid : Option Grid) :
    BlamesReference (SheetFormula.resolve grid) := by
  intro ref f hf
  obtain ⟨_, _, _, _, -, -, -, -, hok⟩ | ⟨reason, herr⟩ | hun := resolve_cases grid ref
  · rw [hok] at hf
    cases hf
  · rw [herr] at hf
    exact ⟨reason, (Failure.fault.inj (Except.error.inj hf)).symm⟩
  · obtain ⟨e, he, herr⟩ := hun.resolve_eq
    rw [herr] at hf
    obtain rfl := Except.error.inj hf
    cases he

/-! ### Taking tokens apart -/

/-- When cutting fails no token is blamed. -/
theorem blames_of_segments {separators : String} (h : segments separators ts = .error (.fault f))
    (us : List Token) : f.Blames us := by
  rw [segments] at h
  split at h
  · cases h
  · cases h
    trivial

/-- Tokens that are no chain blame no operand. -/
theorem blames_of_chainOf {operators : String} (h : chainOf operators ts = .error (.fault f))
    (us : List Token) : f.Blames us := by
  rw [chainOf, Failure.bind_eq_error_iff] at h
  obtain h | ⟨ss, -, h⟩ := h
  · exact blames_of_segments h us
  · split at h
    · cases h
    · cases h
      trivial
    · cases h
      trivial

/-- When the parentheses of a call are wrong, its tokens are blamed. -/
theorem blames_of_argumentTokens {name : String} (h : argumentTokens name ts = .error (.fault f))
    (hlength : 2 ≤ ts.length) (hatomic : Segment.Atomic ts) : f.Blames ts := by
  rw [argumentTokens] at h
  split at h
  · split at h
    · cases h
      trivial
    · split at h
      · cases h
        exact ⟨hlength, List.infix_refl ts, hatomic⟩
      · cases h
  · cases h
    trivial

/-- When the arguments of a call are wrong, no token is blamed. -/
theorem blames_of_argumentRuns {name : String} {g : Function} {inner : List Token}
    (h : argumentRuns name g inner = .error (.fault f)) (us : List Token) : f.Blames us := by
  rw [argumentRuns, Failure.bind_eq_error_iff] at h
  obtain h | ⟨ss, -, h⟩ := h
  · exact blames_of_segments h us
  · split at h
    · cases h
      trivial
    · split at h
      · cases h
        trivial
      · cases h

/-- **A call that cannot be taken apart** blames itself, or its name, which stands before a
parenthesis. -/
theorem blames_of_callOf {t : Token} {r : List Token} (ht : t.kind = .functionName)
    (h : callOf (t :: r) = .error (.fault f)) (hlength : 2 ≤ (t :: r).length)
    (hatomic : Segment.Atomic (t :: r)) : f.Blames (t :: r) := by
  rw [callOf, Failure.bind_eq_error_iff] at h
  obtain h | ⟨inner, hinner, h⟩ := h
  · exact blames_of_argumentTokens h hlength hatomic
  obtain ⟨u, -, htokens⟩ := argumentTokens_eq_ok_iff.mp hinner
  obtain ⟨rfl, rfl⟩ := List.cons.inj htokens
  rw [Failure.bind_eq_error_iff] at h
  obtain h | ⟨g, -, h⟩ := h
  · rw [functionNamed] at h
    split at h
    · cases h
    · cases h
      exact ⟨[], t, _, rfl, ht, rfl⟩
  · rw [Failure.bind_eq_error_iff] at h
    obtain h | ⟨runs, -, h⟩ := h
    · exact blames_of_argumentRuns h _
    · cases h

/-! ### Every level of reading -/

/-- A chain fails as one of its runs does. -/
theorem chained_failure {read : List Token → Reading (Formula Float)} {c : Chain} {e : Failure}
    (h : (chained read c).outcome = .error e) : ∃ run ∈ c.runs, (read run).outcome = .error e := by
  rw [chained, Trace.outcome_bind_eq_error_iff] at h
  obtain h | ⟨first, -, h⟩ := h
  · exact ⟨c.first, List.mem_cons_self, h⟩
  rw [Trace.outcome_bind_eq_error_iff] at h
  obtain h | ⟨rest, -, h⟩ := h
  · obtain ⟨p, hp, h⟩ := Formula.mapM_failure h
    rw [Trace.outcome_bind_eq_error_iff] at h
    obtain h | ⟨right, -, h⟩ := h
    · exact ⟨p.2, List.mem_cons_of_mem _ (List.mem_map_of_mem hp), h⟩
    · cases h
  · cases h

/-- A chain of tokens is founded in them when each run is founded in itself. -/
theorem founded_chained {operators : String} (hplain : Segment.Plain operators.toList)
    {read : List Token → Reading (Formula Float)}
    (h : ∀ c, chainOf operators ts = .ok c → ∀ run ∈ c.runs, Founded run (read run)) :
    Founded ts (match chainOf operators ts with
      | .error e => throw e
      | .ok c => chained read c) := by
  intro f hf
  cases hc : chainOf operators ts with
  | error e =>
      rw [hc] at hf
      obtain rfl := Except.error.inj hf
      exact blames_of_chainOf hc ts
  | ok c =>
      rw [hc] at hf
      obtain ⟨run, hrun, hfail⟩ := chained_failure hf
      obtain ⟨rfl, -⟩ := (chainOf_eq_ok_iff hplain).mp hc
      exact (h c hc run hrun f hfail).mono (Chain.infix_of_mem_runs hrun)

/-- A single token that is no operand is blamed. -/
theorem founded_single (hresolve : BlamesReference resolve) {t : Token}
    (hatomic : Segment.Atomic [t]) : Founded [t] (single resolve t) := by
  intro f hf
  rw [single] at hf
  have hmem : t ∈ [t] := List.mem_singleton_self t
  cases hkind : t.kind with
  | number =>
      rw [hkind] at hf
      simp only [Trace.outcome_bind_eq_error_iff, Trace.outcome_lift, numberOf] at hf
      obtain hf | ⟨x, -, hf⟩ := hf
      · split at hf
        · cases hf
        · cases hf
          exact ⟨List.infix_refl _, hatomic⟩
      · cases hf
  | cellReference =>
      rw [hkind] at hf
      simp only [Trace.outcome_bind_eq_error_iff, Trace.outcome_lift, resolveNoting] at hf
      obtain (hf | ⟨x, -, hf | ⟨_, -, hf⟩⟩) | ⟨x, -, hf⟩ := hf
      · obtain ⟨reason, rfl⟩ := hresolve _ _ hf
        exact ⟨t, hmem, hkind, rfl⟩
      · cases hf
      · cases hf
      · cases hf
  | functionName | parenthesis | operator | separator =>
      rw [hkind] at hf
      cases hf
      exact ⟨List.infix_refl _, hatomic⟩

/-- **Every level of reading blames what it reads.** Terms and factors are not cut any more at the
signs of the levels above them, and have to be whole for these: a run of a term is so since the
term is. -/
theorem founded_levels (hresolve : BlamesReference resolve) :
    (∀ ts, Founded ts (expression resolve ts)) ∧
    (∀ ts, Segment.Whole "+-" ts → Founded ts (slot resolve ts)) ∧
    (∀ ts, Segment.Whole "+-" ts → Founded ts (term resolve ts)) ∧
    (∀ ts, Segment.Whole "+-*/" ts → Founded ts (operand resolve ts)) ∧
    (∀ ts, Segment.Whole "+-*/" ts → Founded ts (factor resolve ts)) ∧
    (∀ ts, Segment.Whole "+-*/" ts → ∀ t r, ts = t :: r → r ≠ [] → t.kind = .functionName →
      Founded ts (call resolve ts)) := by
  refine levels ?_ ?_ ?_ ?_ ?_ ?_
  · intro ts ih
    rw [expression_eq]
    refine founded_chained plain_adds fun c hc run hrun => ih c hc run hrun ?_
    obtain ⟨-, hproper⟩ := (chainOf_eq_ok_iff plain_adds).mp hc
    exact hproper.toCut.whole_of_mem_runs run hrun
  · intro ts ih hwhole
    by_cases hne : ts = []
    · subst hne
      rw [slot_nil]
      exact fun f hf => by cases hf
    · rw [slot_of_ne_nil hne]
      exact ih hne hwhole
  · intro ts ih hwhole
    rw [term_eq]
    refine founded_chained plain_multiplies fun c hc run hrun => ih c hc run hrun ?_
    obtain ⟨rfl, hproper⟩ := (chainOf_eq_ok_iff plain_multiplies).mp hc
    have hadds := hproper.toCut.whole_runs plain_multiplies hwhole run hrun
    exact hadds.both (hproper.toCut.whole_of_mem_runs run hrun) rfl
  · intro ts ih hwhole
    by_cases hne : ts = []
    · subst hne
      rw [operand_nil]
      intro f hf
      cases hf
      trivial
    · rw [operand_of_ne_nil hne]
      exact ih hne hwhole
  · intro ts ihgroup ihcall hwhole
    obtain ⟨t, rfl, hfactor⟩ | ⟨inner, rfl, hfactor⟩ | ⟨t, r, rfl, hr, ht, hfactor⟩ |
      ⟨rfl, hfactor⟩ | ⟨hlength, hfactor⟩ := factor_cases ts
    · rw [hfactor]
      exact founded_single hresolve (Segment.atomic_iff.mpr hwhole)
    · rw [hfactor]
      refine (ihgroup inner rfl).mono ⟨[Token.openParen], [Token.closeParen], ?_⟩
      simp
    · rw [hfactor]
      exact ihcall t r rfl hr ht hwhole t r rfl hr ht
    · rw [hfactor]
      intro f hf
      cases hf
      trivial
    · rw [hfactor]
      intro f hf
      cases hf
      exact ⟨hlength, List.infix_refl ts, Segment.atomic_iff.mpr hwhole⟩
  · rintro ts ih hwhole t r rfl hr ht f hf
    rw [call_eq] at hf
    cases hc : callOf (t :: r) with
    | error e =>
        rw [hc] at hf
        obtain rfl := Except.error.inj hf
        obtain ⟨u, r, rfl⟩ := List.exists_cons_of_ne_nil hr
        exact blames_of_callOf ht hc (by simp) (Segment.atomic_iff.mpr hwhole)
    | ok p =>
        obtain ⟨g, runs⟩ := p
        rw [hc] at hf
        rw [Trace.outcome_bind_eq_error_iff] at hf
        obtain hf | ⟨args, -, hf⟩ := hf
        · obtain ⟨run, hrun, hfail⟩ := Formula.mapM_failure hf
          refine (ih g runs hc run hrun f hfail).mono ?_
          obtain ⟨u, ⟨first, rest⟩, -, htokens, -, -, rfl⟩ := callOf_eq_ok_iff.mp hc
          rw [htokens]
          refine (Chain.infix_of_mem_runs hrun).trans ⟨[u, Token.openParen], [Token.closeParen], ?_⟩
          simp
        · split at hf
          · cases hf
            trivial
          · cases hf

end Reading

namespace Computation

/-- **What the report of a fault shows is part of the formula.** Tokens in the details stand
together in the formula and could be a single operand, and the kind of a single unexpected token
shows just one. A reference in the details is the text of a reference in the formula. The name of a
function that does not exist is the text of a name that stands right before a parenthesis. -/
theorem blames_of_parse {grid : Option Grid} {ts : List Token} {f : Fault}
    (h : (parse grid ts).outcome = .error (.fault f)) :
    (f.kind.isA .token = true → ∃ block,
      f.report.details = [.position .null, .tokens block] ∧ block ≠ [] ∧ block <:+: ts ∧
        Segment.Atomic block ∧ (f.kind = .token → ∃ t, block = [t])) ∧
    (f.kind = .cell → ∃ t ∈ ts, ∃ reason,
      f.report.details = [.ref (.text t.text), .reason reason] ∧ t.kind = .cellReference) ∧
    (f.kind = .unknownFunction → ∃ us t vs,
      f.report.details = [.functionName (.text t.text)] ∧
        ts = us ++ t :: Token.openParen :: vs ∧ t.kind = .functionName) := by
  rw [outcome_parse] at h
  have hblames : f.Blames ts :=
    (Reading.founded_levels (Reading.blamesReference_resolve grid)).1 ts f h
  refine ⟨fun hkind => ?_, fun hkind => ?_, fun hkind => ?_⟩
  · obtain ⟨t, rfl | rfl⟩ | ⟨block, rfl⟩ := Fault.eq_of_isA_token hkind
    · exact ⟨[t], rfl, List.cons_ne_nil t [], hblames.1, hblames.2, fun _ => ⟨t, rfl⟩⟩
    · exact ⟨[t], rfl, List.cons_ne_nil t [], hblames.1, hblames.2, fun _ => ⟨t, rfl⟩⟩
    · obtain ⟨hlength, hinfix, hatomic⟩ := hblames
      refine ⟨block, rfl, ?_, hinfix, hatomic, fun h => by cases h⟩
      rintro rfl
      cases hlength
  · obtain ⟨ref, reason, rfl⟩ := Fault.eq_of_kind_cell hkind
    obtain ⟨t, ht, hreference, rfl⟩ := hblames
    exact ⟨t, ht, _, rfl, hreference⟩
  · obtain ⟨name, rfl⟩ := Fault.eq_of_kind_unknownFunction hkind
    obtain ⟨us, t, vs, hts, ht, rfl⟩ := hblames
    exact ⟨us, t, vs, rfl, hts, ht⟩

/-- In `-(2 3)` the two numbers are blamed, without the sign and the parentheses around them. -/
theorem blames_of_parse_group : ∃ (ts block : List Token) (f : Fault),
    block = [⟨.number, "2"⟩, ⟨.number, "3"⟩] ∧
    ts = ⟨.operator, "-"⟩ :: Token.openParen :: (block ++ [Token.closeParen]) ∧
    (parse none ts).outcome = .error (.fault f) ∧
    f.report.details = [.position .null, .tokens block] ∧
    block <:+: ts ∧ Segment.Atomic block := by
  obtain ⟨block, hblock⟩ : ∃ block : List Token,
      block = [⟨.number, "2"⟩, ⟨.number, "3"⟩] := ⟨_, rfl⟩
  have hwhole : Segment.Whole "+-*/" block := by
    rw [hblock]
    rfl
  have hne : block ≠ [] := by
    rw [hblock]
    exact List.cons_ne_nil _ _
  have hfactor : (Reading.factor (resolve none) block).outcome =
      .error (.fault (.unexpectedSequence block)) := by
    rw [hblock, Reading.factor]
    rfl
  have hadds : Reading.chainOf "+-"
      (⟨.operator, "-"⟩ :: Token.openParen :: (block ++ [Token.closeParen])) =
      .ok ⟨[], [(⟨.operator, "-"⟩, Token.openParen :: (block ++ [Token.closeParen]))]⟩ := by
    rw [hblock]
    rfl
  have hmultiplies : Reading.chainOf "*/" (Token.openParen :: (block ++ [Token.closeParen])) =
      .ok ⟨Token.openParen :: (block ++ [Token.closeParen]), []⟩ := by
    rw [hblock]
    rfl
  have hslot : (Reading.slot (resolve none)
      (Token.openParen :: (block ++ [Token.closeParen]))).outcome =
      .error (.fault (.unexpectedSequence block)) := by
    rw [Reading.slot_of_ne_nil (List.cons_ne_nil _ _), Reading.term_eq, hmultiplies]
    change (Reading.chained (Reading.operand (resolve none)) _).outcome = _
    rw [Reading.chained_singleton, Reading.operand_of_ne_nil (List.cons_ne_nil _ _),
      Reading.factor_group, Reading.expression_of_whole hne hwhole, hfactor]
  have hparse : (parse none
      (⟨.operator, "-"⟩ :: Token.openParen :: (block ++ [Token.closeParen]))).outcome =
      .error (.fault (.unexpectedSequence block)) := by
    rw [outcome_parse, Reading.expression_eq, hadds]
    change (Reading.chained (Reading.slot (resolve none)) _).outcome = _
    simp only [Reading.chained, Reading.slot_nil, List.mapM_cons, Trace.outcome_bind_eq_error_iff]
    exact Or.inr ⟨_, rfl, Or.inl (Or.inl (Or.inl hslot))⟩
  obtain ⟨_, hdetails, -, hinfix, hatomic, -⟩ := (blames_of_parse hparse).1 rfl
  cases hdetails
  exact ⟨_, block, _, hblock, rfl, hparse, rfl, hinfix, hatomic⟩

end Computation

end SheetFormula
