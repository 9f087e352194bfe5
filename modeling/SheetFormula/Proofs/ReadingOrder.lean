import SheetFormula.Proofs.Stages
import SheetFormula.Proofs.Vocabulary

/-!
# The Order in Which References Are Read

A formula is cut into runs before any of them is read, and the runs are read from left to
right. So the references are met in the order in which they stand, whatever the depth at which
they stand, and where a reading fails it has met those before some place.

The developer sees a line for each reference that is resolved, and one for a formula that was
read. Evaluation shows none.

## Main results

* `Reading.Meets.bind`: **readings one after the other** meet their references in this order.
* `Reading.meets_expression`: **a reading meets the references of its tokens in order**.
* `Computation.debugLines_compute`: evaluation adds no line.
* `Computation.debugLines_of_tokenize`: **the lines that a formula text leaves**.
-/

namespace SheetFormula

namespace Reading

variable {resolve : String → Except Failure Float} {α β γ : Type}

/-! ### References in order -/

/-- The **references** among some tokens, in their order. -/
def references (ts : List Token) : List String :=
  (ts.filter (·.kind = .cellReference)).map (·.text)

/-- The references of two runs are those of the first and then those of the second. -/
theorem references_append (ts us : List Token) :
    references (ts ++ us) = references ts ++ references us := by
  rw [references, List.filter_append, List.map_append]
  rfl

/-- A token that is no reference adds none. -/
theorem references_cons_of_ne {t : Token} (h : t.kind ≠ .cellReference) (ts : List Token) :
    references (t :: ts) = references ts := by
  rw [references, List.filter_cons_of_neg (by simpa using h)]
  rfl

/-- Parentheses around tokens are no references. -/
theorem references_enclosed (ts : List Token) :
    references (Token.openParen :: (ts ++ [Token.closeParen])) = references ts := by
  rw [references_cons_of_ne (by decide), references_append]
  exact List.append_nil _

/-- The references among some tokens are **longer than one character**, and so none of them is
taken for a separator. -/
def Worded (ts : List Token) : Prop :=
  ∀ t ∈ ts, t.kind = .cellReference → ∀ c, t.text.toList ≠ [c]

/-- References among fewer tokens are longer than one character, too. -/
theorem Worded.of_subset {ts us : List Token} (h : Worded ts) (hus : us ⊆ ts) : Worded us :=
  fun t ht => h t (hus ht)

/-- A separator is no reference. -/
theorem Worded.ne_cellReference {ts : List Token} (h : Worded ts) {t : Token} (ht : t ∈ ts)
    {separators : List Char} (hseparates : Segment.separates separators t = true) :
    t.kind ≠ .cellReference := by
  intro hkind
  obtain ⟨c, -, hc⟩ := Segment.separates_iff.mp hseparates
  exact h t ht hkind c hc

/-- The references of a chain are those of its runs, one run after the other. -/
theorem references_tokens {c : Chain} (h : ∀ p ∈ c.rest, p.1.kind ≠ .cellReference) :
    references c.tokens = c.runs.flatMap references := by
  have hrest : ∀ rest : List (Token × List Token), (∀ p ∈ rest, p.1.kind ≠ .cellReference) →
      references (rest.flatMap fun p => p.1 :: p.2) = rest.flatMap fun p => references p.2 := by
    intro rest hkinds
    induction rest with
    | nil => rfl
    | cons p r ih =>
        obtain ⟨hp, hr⟩ := List.forall_mem_cons.mp hkinds
        rw [List.flatMap_cons, references_append, references_cons_of_ne hp, ih hr,
          List.flatMap_cons]
  rw [Chain.tokens, Chain.runs, references_append, hrest c.rest h, List.flatMap_cons,
    List.flatMap_map]

/-- The references of tokens that are cut are those of the runs. -/
theorem Worded.references_chain {ts : List Token} (hts : Worded ts) {operators : String}
    {c : Chain} (htokens : c.tokens = ts) (hcut : c.Cut operators) :
    references ts = c.runs.flatMap references := by
  rw [← htokens]
  refine references_tokens fun p hp => ?_
  have hmem : p.1 ∈ ts := by
    rw [← htokens]
    exact List.mem_append_right _ (List.mem_flatMap.mpr ⟨p, hp, List.mem_cons_self⟩)
  exact hts.ne_cellReference hmem (hcut.rest p hp).1

/-! ### Meeting references -/

/-- A reading **meets** some references in order: its notes are resolved references, they are
a beginning of these, and all of them when the reading answers. -/
structure Meets (resolve : String → Except Failure Float) (refs : List String)
    (x : Reading α) : Prop where
  resolved : ∀ n ∈ x.notes, resolve n.ref = .ok n.value
  inOrder : x.notes.map (·.ref) <+: refs
  complete : ∀ a, x.outcome = .ok a → x.notes.map (·.ref) = refs

namespace Meets

variable {us vs : List String}

/-- A reading that answers at once meets no references. -/
theorem pure (a : α) : Meets resolve [] (Pure.pure a : Reading α) :=
  ⟨by simp, List.prefix_rfl, fun _ _ => rfl⟩

/-- A reading that fails at once meets a first part of any references, the empty one. -/
theorem throw (refs : List String) (e : Failure) : Meets resolve refs (Trace.fail e : Reading α) :=
  ⟨fun n hn => (List.not_mem_nil hn).elim, List.nil_prefix, fun a h => by cases h⟩

/-- A reading that refuses at once meets a first part of any references, the empty one. -/
theorem refuse (refs : List String) (f : Fault) :
    Meets resolve refs (SheetFormula.refuse f : Reading α) :=
  throw refs (.fault f)

/-- A step that resolves nothing meets no references. -/
theorem lift (x : Except Failure α) : Meets resolve [] (liftM x : Reading α) :=
  ⟨by simp [liftM, monadLift, MonadLift.monadLift, Trace.ofExcept], List.prefix_rfl, fun _ _ => rfl⟩

/-- **Readings one after the other** meet their references in this order. -/
theorem bind {x : Reading α} {k : α → Reading β} (hx : Meets resolve us x)
    (hk : ∀ a, Meets resolve vs (k a)) : Meets resolve (us ++ vs) (x >>= k) := by
  cases hout : x.outcome with
  | error e =>
      have hnotes := Trace.notes_bind_of_error hout k
      refine ⟨fun n hn => hx.resolved n (hnotes ▸ hn), ?_, fun b hb => ?_⟩
      · rw [hnotes]
        exact hx.inOrder.trans (List.prefix_append us vs)
      · rw [Trace.outcome_bind, hout] at hb
        cases hb
  | ok a =>
      have hnotes := Trace.notes_bind_of_ok hout k
      have hus := hx.complete a hout
      refine ⟨fun n hn => ?_, ?_, fun b hb => ?_⟩
      · rw [hnotes] at hn
        exact (List.mem_append.mp hn).elim (hx.resolved n) ((hk a).resolved n)
      · rw [hnotes, List.map_append, hus]
        exact (List.prefix_append_right_inj us).mpr (hk a).inOrder
      · rw [Trace.outcome_bind, hout] at hb
        rw [hnotes, List.map_append, hus, (hk a).complete b hb]

/-- What is made of an answer without meeting references. -/
theorem map {x : Reading α} (hx : Meets resolve us x) (g : α → β) :
    Meets resolve us (x >>= fun a => Pure.pure (g a)) := by
  have hbind := hx.bind fun a => pure (g a)
  rwa [List.append_nil] at hbind

/-- Readings one after the other meet their references in turn. -/
theorem mapM {k : γ → Reading β} {refs : γ → List String} {xs : List γ}
    (h : ∀ x ∈ xs, Meets resolve (refs x) (k x)) :
    Meets resolve (xs.flatMap refs) (xs.mapM k) := by
  induction xs with
  | nil => exact pure []
  | cons x r ih =>
      rw [List.mapM_cons, List.flatMap_cons]
      refine (h x List.mem_cons_self).bind fun a => (ih fun y hy => ?_).map (a :: ·)
      exact h y (List.mem_cons_of_mem x hy)

/-- A chain meets the references of its runs. -/
theorem chained {read : List Token → Reading (Formula Float)} {c : Chain}
    (h : ∀ run ∈ c.runs, Meets resolve (references run) (read run)) :
    Meets resolve (c.runs.flatMap references) (Reading.chained read c) := by
  have hrest : ∀ p ∈ c.rest, Meets resolve (references p.2) (do
      let right ← read p.2
      Pure.pure (p.1.text, right) : Reading (String × Formula Float)) := fun p hp =>
    (h p.2 (List.mem_cons_of_mem _ (List.mem_map_of_mem hp))).map (p.1.text, ·)
  rw [Chain.runs, List.flatMap_cons, List.flatMap_map]
  exact (h c.first List.mem_cons_self).bind fun first =>
    (mapM hrest).map (Formula.joinLeft first)

end Meets

/-! ### Readings meet their references -/

/-- Resolving a reference meets just this one. -/
theorem meets_resolveNoting (ref : String) : Meets resolve [ref] (resolveNoting resolve ref) := by
  rw [resolveNoting]
  cases h : resolve ref with
  | error e => exact .throw [ref] e
  | ok x =>
      exact ⟨List.forall_mem_singleton.mpr h, List.prefix_rfl, fun _ _ => rfl⟩

/-- A single token meets itself if it is a reference. -/
theorem meets_single (t : Token) : Meets resolve (references [t]) (single resolve t) := by
  rw [single]
  cases hkind : t.kind with
  | cellReference =>
      have hrefs : references [t] = [t.text] := by simp [references, hkind]
      rw [hrefs]
      exact (meets_resolveNoting t.text).map Formula.leaf
  | number =>
      have hrefs : references [t] = [] := by simp [references, hkind]
      rw [hrefs]
      exact (Meets.lift (numberOf t)).map Formula.leaf
  | functionName | parenthesis | operator | separator => exact .refuse _ _

/-- A chain meets the references of its tokens when each of its runs meets its own. -/
theorem meets_chained {operators : String} (hplain : Segment.Plain operators.toList)
    {ts : List Token} (hts : Worded ts) {read : List Token → Reading (Formula Float)}
    (h : ∀ c, chainOf operators ts = .ok c →
      ∀ run ∈ c.runs, Worded run → Meets resolve (references run) (read run)) :
    Meets resolve (references ts)
      (match chainOf operators ts with | .error e => throw e | .ok c => chained read c) := by
  cases hc : chainOf operators ts with
  | error e => exact .throw _ e
  | ok c =>
      obtain ⟨htokens, hproper⟩ := (chainOf_eq_ok_iff hplain).mp hc
      rw [hts.references_chain htokens hproper.toCut]
      refine .chained fun run hrun => h c hc run hrun (hts.of_subset ?_)
      exact subset_of_chainOf hplain hc run hrun

/-- A call meets the references of its arguments. -/
theorem meets_call {t : Token} {r : List Token} (ht : t.kind = .functionName)
    (hts : Worded (t :: r))
    (h : ∀ g runs, callOf (t :: r) = .ok (g, runs) →
      ∀ run ∈ runs, Worded run → Meets resolve (references run) (expression resolve run)) :
    Meets resolve (references (t :: r)) (call resolve (t :: r)) := by
  rw [call_eq]
  cases hc : callOf (t :: r) with
  | error e => exact .throw _ e
  | ok p =>
      obtain ⟨g, runs⟩ := p
      obtain ⟨u, c, -, heq, -, hproper, rfl⟩ := callOf_eq_ok_iff.mp hc
      obtain ⟨rfl, rfl⟩ := List.cons.inj heq
      have hinner : Worded c.tokens := hts.of_subset fun u hu =>
        List.mem_cons_of_mem _ (List.mem_cons_of_mem _ (List.mem_append_left _ hu))
      have hargs : ∀ run ∈ c.runs, Meets resolve (references run) (expression resolve run) :=
        fun run hrun => h g c.runs hc run hrun (hts.of_subset (subset_of_callOf hc run hrun))
      rw [references_cons_of_ne (by rw [ht]; decide), references_enclosed,
        hinner.references_chain rfl hproper.toCut]
      have hcount : ∀ args : List (Formula Float), Meets resolve [] (do
          if !g.takes args.length then SheetFormula.refuse (.wrongArity g args.length)
          Pure.pure (.call g args) : Reading (Formula Float)) := by
        intro args
        split
        · exact .refuse _ _
        · exact .pure _
      have hbind := (Meets.mapM hargs).bind hcount
      rwa [List.append_nil] at hbind

/-- **A reading meets the references of its tokens in order.** -/
theorem meets_expression {ts : List Token} (hts : Worded ts) :
    Meets resolve (references ts) (expression resolve ts) := by
  have hlevels := levels
    (E := fun ts => Worded ts → Meets resolve (references ts) (expression resolve ts))
    (S := fun ts => Worded ts → Meets resolve (references ts) (slot resolve ts))
    (T := fun ts => Worded ts → Meets resolve (references ts) (term resolve ts))
    (O := fun ts => Worded ts → Meets resolve (references ts) (operand resolve ts))
    (F := fun ts => Worded ts → Meets resolve (references ts) (factor resolve ts))
    (C := fun ts => ∀ t r, ts = t :: r → t.kind = .functionName → Worded ts →
      Meets resolve (references ts) (call resolve ts))
    ?_ ?_ ?_ ?_ ?_ ?_
  · exact hlevels.1 ts hts
  · intro ts ih hts
    rw [expression_eq]
    exact meets_chained plain_adds hts ih
  · intro ts ih hts
    by_cases hne : ts = []
    · subst hne
      rw [slot_nil]
      exact .pure _
    · rw [slot_of_ne_nil hne]
      exact ih hne hts
  · intro ts ih hts
    rw [term_eq]
    exact meets_chained plain_multiplies hts ih
  · intro ts ih hts
    by_cases hne : ts = []
    · subst hne
      rw [operand_nil]
      exact .refuse _ _
    · rw [operand_of_ne_nil hne]
      exact ih hne hts
  · intro ts ihgroup ihcall hts
    obtain ⟨t, rfl, heq⟩ | ⟨inner, rfl, heq⟩ | ⟨t, r, rfl, hr, ht, heq⟩ | ⟨-, heq⟩ | ⟨-, heq⟩ :=
      factor_cases ts
    · rw [heq]
      exact meets_single t
    · rw [heq, references_enclosed]
      refine ihgroup inner rfl (hts.of_subset fun t ht => ?_)
      exact List.mem_cons_of_mem _ (List.mem_append_left _ ht)
    · rw [heq]
      exact ihcall t r rfl hr ht t r rfl ht hts
    · rw [heq]
      exact .refuse _ _
    · rw [heq]
      exact .refuse _ _
  · rintro ts ih t r rfl ht hts
    exact meets_call ht hts ih

/-- The references of a text are longer than one character. -/
theorem worded_of_tokenize {text : String} {ts : List Token} (h : tokenize text = .ok ts) :
    Worded ts := by
  intro t ht hkind c hc
  obtain ⟨letter, ds, hparts⟩ := (spelled_of_tokenize h t ht).parts?_of_reference hkind
  obtain ⟨hchars, -, hds, -⟩ := Address.parts?_eq_some_iff.mp hparts
  rw [hchars] at hc
  exact hds (List.cons.inj hc).2

end Reading

/-! ### Lines for the developer -/

namespace Computation

variable {α β : Type}

/-- The **lines shown to a developer**, each with its channel. -/
def debugLines (c : Computation α) : List (String × String) := c.notes.filterMap Note.debugLine?

/-- The line of a reference that was resolved. -/
def resolvedLine (r : Resolution) : String × String :=
  ("cellcalc.formulas.cellref", "resolved " ++ r.ref ++ " -> " ++ Decimal.plainText r.value)

/-- The line of a formula that was read from a number of tokens. -/
def parsedLine (count : Nat) (f : Formula Float) : String × String :=
  ("cellcalc.formulas.parser", "parsed " ++ toString count ++ " tokens -> " ++ f.text)

/-- The lines of two computations are those of the first and, when it succeeds, those of the second.
-/
theorem debugLines_bind (c : Computation α) (k : α → Computation β) :
    debugLines (c >>= k) = debugLines c ++
      match c.outcome with
      | .ok a => debugLines (k a)
      | .error _ => [] := by
  cases h : c.outcome with
  | ok a => simp only [debugLines, Trace.notes_bind_of_ok h, List.filterMap_append]
  | error e => simp only [debugLines, Trace.notes_bind_of_error h, List.append_nil]

/-- A report is an event, and shows no line. -/
theorem debugLines_reporting (text : String) (stage : Stage) (c : Computation α) :
    debugLines (reporting text stage c) = debugLines c := by
  cases h : c.outcome with
  | ok a => rw [reporting_of_ok h]
  | error e =>
      simp only [reporting, tryCatch, tryCatchThe, MonadExceptOf.tryCatch, h]
      rw [debugLines, List.filterMap_append]
      cases e <;> exact List.append_nil _

/-- Compiling a text writes the lines of reading it. -/
theorem debugLines_compile (grid : Option Grid) (text : String) :
    debugLines (compile grid text) = debugLines (read grid text) := by
  rw [compile, debugLines_bind, debugLines_reporting]
  cases (reporting text .parse (read grid text)).outcome <;> exact List.append_nil _

/-- Evaluating a formula writes no lines about references. -/
theorem debugLines_evaluation (elapsed : Json) (text : String) (f : Formula Float) :
    debugLines (evaluation elapsed text f) = [] := by
  rw [evaluation, debugLines_bind, debugLines_reporting]
  cases (reporting text .evaluate (Trace.ofExcept f.evaluate : Computation Float)).outcome <;> rfl

/-- **Evaluation adds no line** to those of reading. -/
theorem debugLines_compute (grid : Option Grid) (elapsed : Json) (text : String) :
    debugLines (compute grid elapsed text) = debugLines (read grid text) := by
  rw [compute_eq, debugLines_bind, debugLines_compile]
  cases (compile grid text).outcome with
  | ok f => simp only [debugLines_evaluation, List.append_nil]
  | error e => exact List.append_nil _

/-- **The lines of reading some tokens**: one for each note of the reading, and one for the
formula if it answers. -/
theorem debugLines_parse (grid : Option Grid) (ts : List Token) :
    debugLines (parse grid ts) =
      (Reading.expression (resolve grid) ts).notes.map resolvedLine ++
        match (Reading.expression (resolve grid) ts).outcome with
        | .ok f => [parsedLine ts.length f]
        | .error _ => [] := by
  have hresolved : debugLines ((Reading.expression (resolve grid) ts).mapNotes Note.resolved) =
      (Reading.expression (resolve grid) ts).notes.map resolvedLine := by
    rw [debugLines, Trace.mapNotes, List.filterMap_map, ← List.filterMap_eq_map]
    rfl
  rw [parse, debugLines_bind, hresolved, Trace.outcome_mapNotes]
  cases (Reading.expression (resolve grid) ts).outcome <;> rfl

/-- **The lines that a formula text leaves.** When its tokens are read as a formula, each
reference among them has one line with its number, in their order, and one line tells of the
formula. When they are not, the lines are those of the first references, up to some place. To
compute the formula adds no line to those of reading it. -/
theorem debugLines_of_tokenize {text : String} {ts : List Token} (h : tokenize text = .ok ts)
    (grid : Option Grid) (elapsed : Json) :
    ∃ met : List Resolution, (∀ r ∈ met, resolve grid r.ref = .ok r.value) ∧
      (∀ f, (read grid text).outcome = .ok f →
        met.map (·.ref) = Reading.references ts ∧
        debugLines (read grid text) = met.map resolvedLine ++ [parsedLine ts.length f]) ∧
      (∀ e, (read grid text).outcome = .error e →
        met.map (·.ref) <+: Reading.references ts ∧
        debugLines (read grid text) = met.map resolvedLine) ∧
      debugLines (compile grid text) = debugLines (read grid text) ∧
      debugLines (compute grid elapsed text) = debugLines (read grid text) := by
  have hmeets : Reading.Meets (resolve grid) (Reading.references ts)
      (Reading.expression (resolve grid) ts) :=
    Reading.meets_expression (Reading.worded_of_tokenize h)
  have hread : read grid text = parse grid ts := by
    rw [read, h]
  rw [hread, debugLines_parse, outcome_parse]
  refine ⟨(Reading.expression (resolve grid) ts).notes, hmeets.resolved, ?_, ?_, ?_, ?_⟩
  · intro f hf
    rw [hf]
    exact ⟨hmeets.complete f hf, rfl⟩
  · intro e he
    rw [he]
    exact ⟨hmeets.inOrder, List.append_nil _⟩
  · rw [debugLines_compile, hread, debugLines_parse]
  · rw [debugLines_compute, hread, debugLines_parse]

/-- The line of a reference that was resolved has its number. -/
theorem resolvedLine_of_resolve {grid : Option Grid} {r : Resolution}
    (hr : resolve grid r.ref = .ok r.value) {ref : String} (href : r.ref = ref) {x : Float}
    (hx : resolve grid ref = .ok x) : resolvedLine r = resolvedLine ⟨ref, x⟩ := by
  subst href
  rw [resolvedLine, Except.ok.inj (hr.symm.trans hx)]
  rfl

/-- In `=A2*(A1-A2)` the references are met as they stand, `A2` twice. -/
theorem debugLines_of_tokenize_twice : ∃ (ts : List Token) (grid : Grid) (f : Formula Float),
    grid = ⟨.sparse 2 [(⟨0, 1⟩, .text "7"), (⟨1, 1⟩, .text "0.5")], none⟩ ∧
    tokenize "=A2*(A1-A2)" = .ok ts ∧ (read (some grid) "=A2*(A1-A2)").outcome = .ok f ∧
    debugLines (read (some grid) "=A2*(A1-A2)") =
      [("cellcalc.formulas.cellref", "resolved A2 -> 0.5"),
        ("cellcalc.formulas.cellref", "resolved A1 -> 7.0"),
        ("cellcalc.formulas.cellref", "resolved A2 -> 0.5"),
        ("cellcalc.formulas.parser", "parsed 7 tokens -> (0.5 * (7 - 0.5))")] := by
  let grid : Grid := ⟨.sparse 2 [(⟨0, 1⟩, .text "7"), (⟨1, 1⟩, .text "0.5")], none⟩
  have hfirst : resolve (some grid) "A1" = .ok 7 := rfl
  have hsecond : resolve (some grid) "A2" = .ok 0.5 := rfl
  have htokens : tokenize "=A2*(A1-A2)" = .ok [⟨.cellReference, "A2"⟩, ⟨.operator, "*"⟩,
      ⟨.parenthesis, "("⟩, ⟨.cellReference, "A1"⟩, ⟨.operator, "-"⟩, ⟨.cellReference, "A2"⟩,
      ⟨.parenthesis, ")"⟩] := by cbv
  have hleft : Derives (resolve (some grid)) .term [⟨.cellReference, "A1"⟩] (.leaf 7) :=
    .oneFactor (.reference rfl hfirst)
  have hright : Derives (resolve (some grid)) .term [⟨.cellReference, "A2"⟩] (.leaf 0.5) :=
    .oneFactor (.reference rfl hsecond)
  have hgroup := (Derives.ofSum (t := ⟨.operator, "-"⟩) (.oneSlot (.filledSlot hleft))
    (Or.inr rfl) hright).group
  have hderives := (hright.moreFactors (t := ⟨.operator, "*"⟩) (Or.inl rfl) hgroup).ofTerm
  have hread : (read (some grid) "=A2*(A1-A2)").outcome =
      .ok (.binary "*" (.leaf 0.5) (.binary "-" (.leaf 7) (.leaf 0.5))) :=
    (outcome_read_eq_ok_iff htokens).mpr hderives
  obtain ⟨met, hmet, hok, -⟩ := debugLines_of_tokenize htokens (some grid) .null
  obtain ⟨hrefs, hlines⟩ := hok _ hread
  obtain ⟨r, met, rfl, hr, hrefs⟩ := List.map_eq_cons_iff.mp hrefs
  obtain ⟨r', met, rfl, hr', hrefs⟩ := List.map_eq_cons_iff.mp hrefs
  obtain ⟨r'', met, rfl, hr'', hrefs⟩ := List.map_eq_cons_iff.mp hrefs
  obtain rfl := List.map_eq_nil_iff.mp hrefs
  simp only [List.forall_mem_cons] at hmet
  obtain ⟨hmet, hmet', hmet'', -⟩ := hmet
  refine ⟨_, grid, _, rfl, htokens, hread, ?_⟩
  rw [hlines, List.map_cons, List.map_cons, List.map_cons, List.map_nil,
    resolvedLine_of_resolve hmet hr hsecond, resolvedLine_of_resolve hmet' hr' hfirst,
    resolvedLine_of_resolve hmet'' hr'' hsecond]
  decide

end Computation

end SheetFormula
