import Mathlib.Data.List.Induction
import SheetFormula.Computation
import SheetFormula.Proofs.Chains

/-!
# The Steps of a Reading

One equation for each function that reads formulas, without the bookkeeping that shows
their recursion to end, and one principle of induction over all six of them. Expressions
and terms are read alike: `Reading.chained` reads the runs of a chain from left to right and
joins them to the left.

## Main results

* `Reading.chained_append`: **a chain with one more run** is the chain read so far, with an
  operation on top.
* `Reading.chained_induction`: induction over a chain that is read.
* `Reading.expression_eq`, `Reading.term_eq`, `Reading.call_eq`: the equations of the three
  recursive steps.
* `Reading.factor_cases`: what a factor can be.
* `Reading.levels`: the principle of induction.
-/

namespace SheetFormula

namespace Reading

/-- The formula of a **chain of runs** that are read by `read`, from left to right. -/
def chained (read : List Token → Reading (Formula Float)) (c : Chain) :
    Reading (Formula Float) := do
  let first ← read c.first
  let rest ← c.rest.mapM fun p => do
    let right ← read p.2
    pure (p.1.text, right)
  pure (Formula.joinLeft first rest)

variable {read : List Token → Reading (Formula Float)}

/-- A chain of a single run is that run. -/
theorem chained_singleton (first : List Token) : chained read ⟨first, []⟩ = read first := by
  rw [chained]
  simp only [List.mapM_nil, pure_bind, Formula.joinLeft, List.foldl_nil, bind_pure]

/-- **A chain with one more run** is the chain read so far with an operation on top. -/
theorem chained_append (first us : List Token) (rest : List (Token × List Token)) (t : Token) :
    chained read ⟨first, rest ++ [(t, us)]⟩ = (do
      let l ← chained read ⟨first, rest⟩
      let r ← read us
      pure (.binary t.text l r)) := by
  simp only [chained, List.mapM_append, List.mapM_cons, List.mapM_nil, bind_assoc, pure_bind,
    Formula.joinLeft, List.foldl_append, List.foldl_cons, List.foldl_nil]

/-- **Induction over a chain** that is read: what holds of the first run and passes on with
each further operation holds of the whole chain. -/
theorem chained_induction {separators : String} {P : List Token → Formula Float → Prop}
    {first : List Token} {rest : List (Token × List Token)}
    (hcut : Chain.Cut separators ⟨first, rest⟩)
    (hfirst : ∀ f, (read first).outcome = .ok f → P first f)
    (hmore : ∀ ts l t us r, P ts l → Segment.separates separators.toList t = true →
      us ∈ Chain.runs ⟨first, rest⟩ → (read us).outcome = .ok r →
      P (ts ++ t :: us) (.binary t.text l r))
    {f : Formula Float} (h : (chained read ⟨first, rest⟩).outcome = .ok f) :
    P (Chain.tokens ⟨first, rest⟩) f := by
  induction rest using List.reverseRecOn generalizing f with
  | nil =>
      rw [chained_singleton] at h
      rw [Chain.tokens_singleton]
      exact hfirst f h
  | append_singleton rest p ih =>
      obtain ⟨t, us⟩ := p
      obtain ⟨hcut, ht, -⟩ := Chain.cut_append_iff.mp hcut
      rw [Chain.runs_append] at hmore
      simp only [chained_append, Trace.outcome_bind_eq_ok_iff] at h
      obtain ⟨l, hl, r, hr, hf⟩ := h
      obtain rfl := Except.ok.inj hf
      have hl' : P (Chain.tokens ⟨first, rest⟩) l :=
        ih hcut (fun ts l t us r hts ht hus =>
          hmore ts l t us r hts ht (List.mem_append_left _ hus)) hl
      rw [Chain.tokens_append]
      exact hmore _ l t us r hl' ht (List.mem_append_right _ (List.mem_singleton_self us)) hr

variable {resolve : String → Except Failure Float}

/-! ### The equations -/

/-- Reading an expression is reading the chain of its slots. -/
theorem expression_eq (ts : List Token) :
    expression resolve ts =
      match chainOf "+-" ts with
      | .error e => throw e
      | .ok c => chained (slot resolve) c := by
  rw [expression]
  split
  · rename_i e he
    rw [he]
  · rename_i c hc
    rw [hc]
    simp only [chained]
    congr 1
    funext first
    congr 1
    rw [List.mapM_subtype (g := fun p : Token × List Token => do
      let right ← slot resolve p.2
      pure (p.1.text, right)) (fun _ _ => rfl)]
    rw [List.unattach_attach]

/-- Reading a term is reading the chain of its factors. -/
theorem term_eq (ts : List Token) :
    term resolve ts =
      match chainOf "*/" ts with
      | .error e => throw e
      | .ok c => chained (operand resolve) c := by
  rw [term]
  split
  · rename_i e he
    rw [he]
  · rename_i c hc
    rw [hc]
    simp only [chained]
    congr 1
    funext first
    congr 1
    rw [List.mapM_subtype (g := fun p : Token × List Token => do
      let right ← operand resolve p.2
      pure (p.1.text, right)) (fun _ _ => rfl)]
    rw [List.unattach_attach]

/-- Reading a call is reading its arguments one after another and counting them. -/
theorem call_eq (ts : List Token) :
    call resolve ts =
      (match callOf ts with
      | .error e => throw e
      | .ok (f, runs) => do
          let args ← runs.mapM (expression resolve)
          if !f.takes args.length then refuse (.wrongArity f args.length)
          pure (.call f args)) := by
  rw [call]
  split
  · rename_i e he
    rw [he]
  · rename_i f runs hc
    rw [hc]
    congr 1
    rw [List.mapM_subtype (g := expression resolve) (fun _ _ => rfl), List.unattach_attach]

/-- An empty slot stands for zero. -/
theorem slot_nil : slot resolve [] = pure (.leaf 0) := by
  rw [slot]
  rfl

/-- A slot that is not empty is a term. -/
theorem slot_of_ne_nil {ts : List Token} (h : ts ≠ []) : slot resolve ts = term resolve ts := by
  rw [slot, if_neg (by simpa using h)]

/-- An empty operand is refused. -/
theorem operand_nil : operand resolve [] = refuse .missingOperand := by
  rw [operand]
  rfl

/-- An operand that is not empty is a factor. -/
theorem operand_of_ne_nil {ts : List Token} (h : ts ≠ []) :
    operand resolve ts = factor resolve ts := by
  rw [operand, if_neg (by simpa using h)]

/-- The signs that add are no parentheses. -/
theorem plain_adds : Segment.Plain "+-".toList := ⟨by decide, by decide⟩

/-- The signs that multiply are no parentheses. -/
theorem plain_multiplies : Segment.Plain "*/".toList := ⟨by decide, by decide⟩

/-- Tokens without a sign outside parentheses are read as a factor. -/
theorem expression_of_whole {ts : List Token} (hne : ts ≠ [])
    (hwhole : Segment.Whole "+-*/" ts) : expression resolve ts = factor resolve ts := by
  have hadds : chainOf "+-" ts = .ok ⟨ts, []⟩ := (chainOf_eq_ok_iff plain_adds).mpr
    ⟨Chain.tokens_singleton ts, Chain.cut_singleton (hwhole.of_subset (by decide)), hne⟩
  have hmultiplies : chainOf "*/" ts = .ok ⟨ts, []⟩ := (chainOf_eq_ok_iff plain_multiplies).mpr
    ⟨Chain.tokens_singleton ts, Chain.cut_singleton (hwhole.of_subset (by decide)), hne⟩
  rw [expression_eq, hadds]
  change chained (slot resolve) ⟨ts, []⟩ = _
  rw [chained_singleton, slot_of_ne_nil hne, term_eq, hmultiplies]
  change chained (operand resolve) ⟨ts, []⟩ = _
  rw [chained_singleton, operand_of_ne_nil hne]

/-- One token alone is read as a single token. -/
theorem factor_singleton (t : Token) : factor resolve [t] = single resolve t := by
  rw [factor]

/-- A factor between parentheses is the expression in it. -/
theorem factor_group (inner : List Token) :
    factor resolve (Token.openParen :: (inner ++ [Token.closeParen])) =
      expression resolve inner := by
  obtain ⟨u, r, hr⟩ := List.exists_cons_of_ne_nil
    (List.append_ne_nil_of_right_ne_nil inner (List.cons_ne_nil Token.closeParen []))
  rw [hr, factor, if_pos, ← hr, List.dropLast_concat]
  rw [← hr]
  exact ⟨rfl, List.getLast?_concat⟩

/-- A longer factor that begins with the name of a function is a call. -/
theorem factor_call {t : Token} {r : List Token} (ht : t.kind = .functionName) (hr : r ≠ []) :
    factor resolve (t :: r) = call resolve (t :: r) := by
  obtain ⟨u, r', rfl⟩ := List.exists_cons_of_ne_nil hr
  rw [factor, if_neg, if_pos ht]
  rintro ⟨rfl, -⟩
  cases ht

/-- **What a factor can be** when it is read: a single token, a group or a call. -/
theorem factor_cases (ts : List Token) :
    (∃ t, ts = [t] ∧ ∀ resolve, factor resolve ts = single resolve t) ∨
    (∃ inner, ts = Token.openParen :: (inner ++ [Token.closeParen]) ∧
      ∀ resolve, factor resolve ts = expression resolve inner) ∨
    (∃ t r, ts = t :: r ∧ r ≠ [] ∧ t.kind = .functionName ∧
      ∀ resolve, factor resolve ts = call resolve ts) ∨
    (ts = [] ∧ ∀ resolve, factor resolve ts = refuse .emptyExpression) ∨
    (2 ≤ ts.length ∧ ∀ resolve, factor resolve ts = refuse (.unexpectedSequence ts)) := by
  match ts with
  | [] => exact Or.inr (Or.inr (Or.inr (Or.inl ⟨rfl, fun _ => by rw [factor]⟩)))
  | [t] => exact Or.inl ⟨t, rfl, fun _ => factor_singleton t⟩
  | t :: u :: r =>
      by_cases hgroup : t = Token.openParen ∧ (u :: r).getLast? = some Token.closeParen
      · obtain ⟨rfl, hlast⟩ := hgroup
        have hr : u :: r = (u :: r).dropLast ++ [Token.closeParen] :=
          (List.dropLast_append_getLast? _ hlast).symm
        refine Or.inr (Or.inl ⟨(u :: r).dropLast, congrArg _ hr, fun _ => ?_⟩)
        rw [factor, if_pos ⟨rfl, hlast⟩]
      · by_cases ht : t.kind = .functionName
        · exact Or.inr (Or.inr (Or.inl
            ⟨t, u :: r, rfl, by simp, ht, fun _ => factor_call ht (by simp)⟩))
        · refine Or.inr (Or.inr (Or.inr (Or.inr ⟨by simp, fun _ => ?_⟩)))
          rw [factor, if_neg hgroup, if_neg ht]

/-! ### The answers -/

/-- An expression is read exactly when its chain is. -/
theorem expression_eq_ok_iff {ts : List Token} {f : Formula Float} :
    (expression resolve ts).outcome = .ok f ↔
      ∃ c, chainOf "+-" ts = .ok c ∧ (chained (slot resolve) c).outcome = .ok f := by
  rw [expression_eq]
  cases chainOf "+-" ts with
  | error e => simp
  | ok c => simp

/-- A term is read exactly when its chain is. -/
theorem term_eq_ok_iff {ts : List Token} {f : Formula Float} :
    (term resolve ts).outcome = .ok f ↔
      ∃ c, chainOf "*/" ts = .ok c ∧ (chained (operand resolve) c).outcome = .ok f := by
  rw [term_eq]
  cases chainOf "*/" ts with
  | error e => simp
  | ok c => simp

/-- A call is read exactly when all of its arguments are and the function takes as many. -/
theorem call_eq_ok_iff {ts : List Token} {f : Formula Float} :
    (call resolve ts).outcome = .ok f ↔
      ∃ g runs args, callOf ts = .ok (g, runs) ∧
        (runs.mapM (expression resolve)).outcome = .ok args ∧
        g.takes args.length = true ∧ f = .call g args := by
  rw [call_eq]
  cases callOf ts with
  | error e => simp
  | ok p =>
      obtain ⟨g, runs⟩ := p
      simp only [Trace.outcome_bind_eq_ok_iff]
      constructor
      · rintro ⟨args, hargs, hcheck⟩
        by_cases htakes : g.takes args.length = true
        · refine ⟨g, runs, args, rfl, hargs, htakes, ?_⟩
          simpa [htakes] using hcheck.symm
        · rw [if_pos (by simpa using htakes)] at hcheck
          cases hcheck
      · rintro ⟨g', runs', args, hcall, hargs, htakes, rfl⟩
        obtain ⟨rfl, rfl⟩ := Prod.mk.inj (Except.ok.inj hcall)
        exact ⟨args, hargs, by simp [htakes]⟩

/-- A token is a number exactly when its text can be read as one. -/
theorem numberOf_eq_ok_iff {t : Token} {x : Float} :
    numberOf t = .ok x ↔ Decimal.read? t.text = some x := by
  rw [numberOf]
  cases Decimal.read? t.text with
  | none => simp [refuse, throw, throwThe, MonadExceptOf.throw]
  | some y => simp [pure, Except.pure]

/-- Noting a reference does not change what it resolves to. -/
theorem resolveNoting_eq_ok_iff {ref : String} {x : Float} :
    (resolveNoting resolve ref).outcome = .ok x ↔ resolve ref = .ok x := by
  rw [resolveNoting]
  rw [Trace.outcome_bind_eq_ok_iff]
  constructor
  · rintro ⟨y, hy, hx⟩
    rw [Trace.outcome_bind_eq_ok_iff] at hx
    obtain ⟨-, -, hx⟩ := hx
    obtain rfl := Except.ok.inj hx
    exact hy
  · intro h
    exact ⟨x, h, by rw [Trace.outcome_bind_eq_ok_iff]; exact ⟨(), rfl, rfl⟩⟩

/-- A single token is read when it is a number, or a reference that has one. -/
theorem single_eq_ok_iff {t : Token} {f : Formula Float} :
    (single resolve t).outcome = .ok f ↔
      ∃ x, f = .leaf x ∧
        ((t.kind = .number ∧ Decimal.read? t.text = some x) ∨
          (t.kind = .cellReference ∧ resolve t.text = .ok x)) := by
  rw [single]
  cases t.kind with
  | number =>
      simp only [Trace.outcome_bind_eq_ok_iff, Trace.outcome_lift, Trace.outcome_pure,
        numberOf_eq_ok_iff]
      constructor
      · rintro ⟨x, hx, hf⟩
        exact ⟨x, (Except.ok.inj hf).symm, Or.inl ⟨trivial, hx⟩⟩
      · rintro ⟨x, rfl, ⟨-, hx⟩ | ⟨hkind, -⟩⟩
        · exact ⟨x, hx, rfl⟩
        · cases hkind
  | cellReference =>
      simp only [Trace.outcome_bind_eq_ok_iff, Trace.outcome_pure, resolveNoting_eq_ok_iff]
      constructor
      · rintro ⟨x, hx, hf⟩
        exact ⟨x, (Except.ok.inj hf).symm, Or.inr ⟨trivial, hx⟩⟩
      · rintro ⟨x, rfl, ⟨hkind, -⟩ | ⟨-, hx⟩⟩
        · cases hkind
        · exact ⟨x, hx, rfl⟩
  | functionName | parenthesis | operator | separator => simp [refuse]

/-! ### Induction -/

/-- **Induction over readings.** A property of each of the six functions holds of all
tokens when it passes up from the runs that the function reads to what it is read from. -/
theorem levels {E S T O F C : List Token → Prop}
    (hE : ∀ ts, (∀ c, chainOf "+-" ts = .ok c → ∀ run ∈ c.runs, S run) → E ts)
    (hS : ∀ ts, (ts ≠ [] → T ts) → S ts)
    (hT : ∀ ts, (∀ c, chainOf "*/" ts = .ok c → ∀ run ∈ c.runs, O run) → T ts)
    (hO : ∀ ts, (ts ≠ [] → F ts) → O ts)
    (hF : ∀ ts,
      (∀ inner, ts = Token.openParen :: (inner ++ [Token.closeParen]) → E inner) →
      (∀ t r, ts = t :: r → r ≠ [] → t.kind = .functionName → C ts) → F ts)
    (hC : ∀ ts, (∀ f runs, callOf ts = .ok (f, runs) → ∀ run ∈ runs, E run) → C ts) :
    (∀ ts, E ts) ∧ (∀ ts, S ts) ∧ (∀ ts, T ts) ∧ (∀ ts, O ts) ∧ (∀ ts, F ts) ∧ (∀ ts, C ts) := by
  have hruns : ∀ {P : List Token → Prop} {c : Chain}, P c.first →
      (∀ p : { x // x ∈ c.rest }, P p.val.2) → ∀ run ∈ c.runs, P run := by
    intro P c hfirst hrest run hrun
    rcases List.mem_cons.mp hrun with rfl | hrun
    · exact hfirst
    · obtain ⟨p, hp, rfl⟩ := List.mem_map.mp hrun
      exact hrest ⟨p, hp⟩
  refine expression.mutual_induct E S T O F C
    ?_ ?_ ?_ ?_ ?_ ?_ ?_ ?_ ?_ ?_ ?_ ?_ ?_ ?_ ?_
  · intro ts e he
    exact hE ts (fun c hc => by rw [he] at hc; cases hc)
  · intro ts c hc hfirst hrest
    refine hE ts (fun c' hc' => ?_)
    obtain rfl := Except.ok.inj (hc.symm.trans hc')
    exact hruns hfirst hrest
  · intro ts hts
    exact hS ts (fun hne => absurd (by simpa using hts) hne)
  · intro ts _ hterm
    exact hS ts (fun _ => hterm)
  · intro ts e he
    exact hT ts (fun c hc => by rw [he] at hc; cases hc)
  · intro ts c hc hfirst hrest
    refine hT ts (fun c' hc' => ?_)
    obtain rfl := Except.ok.inj (hc.symm.trans hc')
    exact hruns hfirst hrest
  · intro ts hts
    exact hO ts (fun hne => absurd (by simpa using hts) hne)
  · intro ts _ hfactor
    exact hO ts (fun _ => hfactor)
  · exact hF [] (fun _ h => by cases h) (fun _ _ h => by cases h)
  · intro t
    refine hF [t] (fun inner h => ?_) (fun u r h hr => ?_)
    · have := congrArg List.length h
      simp at this
    · obtain ⟨-, rfl⟩ := List.cons.inj h
      exact absurd rfl hr
  · rintro t u r ⟨rfl, hlast⟩ hinner
    refine hF _ (fun inner h => ?_) (fun v r' h _ hv => ?_)
    · obtain ⟨-, hr⟩ := List.cons.inj h
      rw [hr, List.dropLast_concat] at hinner
      exact hinner
    · obtain ⟨rfl, -⟩ := List.cons.inj h
      cases hv
  · intro t u r hgroup _ hcall
    refine hF _ (fun inner h => ?_) (fun _ _ _ _ _ => hcall)
    obtain ⟨rfl, hr⟩ := List.cons.inj h
    exact absurd ⟨rfl, by rw [hr, List.getLast?_concat]⟩ hgroup
  · intro t u r hgroup hkind
    refine hF _ (fun inner h => ?_) (fun v r' h _ hv => ?_)
    · obtain ⟨rfl, hr⟩ := List.cons.inj h
      exact absurd ⟨rfl, by rw [hr, List.getLast?_concat]⟩ hgroup
    · obtain ⟨rfl, -⟩ := List.cons.inj h
      exact absurd hv hkind
  · intro ts e he
    exact hC ts (fun f runs h => by rw [he] at h; cases h)
  · intro ts f runs hcall hargs
    refine hC ts (fun f' runs' h => ?_)
    obtain ⟨-, rfl⟩ := Prod.mk.inj (Except.ok.inj (hcall.symm.trans h))
    exact fun run hrun => hargs ⟨run, hrun⟩

end Reading

end SheetFormula
