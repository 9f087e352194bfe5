import SheetFormula.Formula.Parser
import SheetFormula.Proofs.Segments

/-!
# Chains of Runs

Cutting is the inverse of joining: the runs of a chain with its separators between them are
cut into just these runs when each of them is whole. So the functions that take an
expression, a term or a call apart have a plain meaning in terms of joined runs.

## Main results

* `Chain.cut?_eq_segments_iff`: **cutting undoes joining**.
* `Reading.chainOf_eq_ok_iff`: a chain of tokens is read exactly when they are its runs
  joined, each run whole, and the last one not empty.
* `Reading.argumentTokens_eq_ok_iff`, `Reading.callOf_eq_ok_iff`: what a call is made of.
-/

namespace SheetFormula

namespace Chain

/-- The tokens of a chain: its runs with the separators between them. -/
def tokens (c : Chain) : List Token := c.first ++ c.rest.flatMap fun p => p.1 :: p.2

/-- The runs of a chain. -/
def runs (c : Chain) : List (List Token) := c.first :: c.rest.map (·.2)

/-- The last run of a chain. -/
def last : List Token → List (Token × List Token) → List Token
  | run, [] => run
  | _, (_, run) :: r => last run r

/-- The segments that a chain comes from. -/
def segments : List Token → List (Token × List Token) → List Segment
  | run, [] => [⟨run, none⟩]
  | run, (t, next) :: r => ⟨run, some t⟩ :: segments next r

/-- A chain is **cut** at some separators when these stand between its runs and nowhere
outside the parentheses of a run. -/
structure Cut (separators : String) (c : Chain) : Prop where
  first : Segment.Whole separators c.first
  rest : ∀ p ∈ c.rest,
    Segment.separates separators.toList p.1 = true ∧ Segment.Whole separators p.2

/-- A chain is **proper** when it is cut at the separators and its last run is not empty. -/
structure Proper (separators : String) (c : Chain) : Prop extends Cut separators c where
  last_ne : last c.first c.rest ≠ []

/-! ### One more run -/

variable {separators : String} {first us : List Token} {rest : List (Token × List Token)}
  {t : Token}

/-- The tokens of a chain of one run are that run. -/
theorem tokens_singleton (first : List Token) : tokens ⟨first, []⟩ = first := by
  simp [tokens]

/-- A run at the end of a chain adds its tokens behind a separator. -/
theorem tokens_append (first us : List Token) (rest : List (Token × List Token)) (t : Token) :
    tokens ⟨first, rest ++ [(t, us)]⟩ = tokens ⟨first, rest⟩ ++ t :: us := by
  simp [tokens]

/-- A run at the end of a chain is the last of its runs. -/
theorem runs_append (first us : List Token) (rest : List (Token × List Token)) (t : Token) :
    runs ⟨first, rest ++ [(t, us)]⟩ = runs ⟨first, rest⟩ ++ [us] := by
  simp [runs]

/-- A chain has all tokens of its runs. -/
theorem subset_tokens_of_mem_runs {c : Chain} {run : List Token} (h : run ∈ c.runs) :
    run ⊆ c.tokens := by
  intro t ht
  obtain rfl | h := List.mem_cons.mp h
  · exact List.mem_append_left _ ht
  · obtain ⟨p, hp, rfl⟩ := List.mem_map.mp h
    exact List.mem_append_right _ (List.mem_flatMap.mpr ⟨p, hp, List.mem_cons_of_mem _ ht⟩)

/-- The last run of a chain is the one that was added. -/
theorem last_append (first us : List Token) (rest : List (Token × List Token)) (t : Token) :
    last first (rest ++ [(t, us)]) = us := by
  induction rest generalizing first with
  | nil => rfl
  | cons q r ih => exact ih q.2

/-- A run that is whole is a cut chain. -/
theorem cut_singleton (h : Segment.Whole separators first) : Cut separators ⟨first, []⟩ :=
  ⟨h, by simp⟩

/-- A chain with one more run is cut when the shorter chain and the run are. -/
theorem cut_append_iff :
    Cut separators ⟨first, rest ++ [(t, us)]⟩ ↔
      Cut separators ⟨first, rest⟩ ∧ Segment.separates separators.toList t = true ∧
        Segment.Whole separators us := by
  constructor
  · intro h
    exact ⟨⟨h.first, fun p hp => h.rest p (by simp [hp])⟩, h.rest (t, us) (by simp)⟩
  · rintro ⟨h, hlast⟩
    refine ⟨h.first, fun p hp => ?_⟩
    rcases List.mem_append.mp hp with hp | hp
    · exact h.rest p hp
    · obtain rfl := List.mem_singleton.mp hp
      exact hlast

/-! ### Cutting undoes joining -/

/-- A chain has a segment. -/
theorem segments_ne_nil (run : List Token) (rest : List (Token × List Token)) :
    segments run rest ≠ [] := by
  cases rest <;> simp [segments]

/-- The chain of the segments of a chain is that chain. -/
theorem ofSegments_segments (run : List Token) (rest : List (Token × List Token)) :
    ofSegments (segments run rest) = .ok ⟨run, rest⟩ := by
  induction rest generalizing run with
  | nil => rfl
  | cons p r ih =>
      obtain ⟨t, next⟩ := p
      obtain ⟨s, ss, hs⟩ := List.exists_cons_of_ne_nil (segments_ne_nil next r)
      have hnext := ih next
      rw [hs] at hnext
      simp only [segments, hs, ofSegments, hnext]

/-- A chain has the segments that it was made of. -/
theorem segments_of_ofSegments {ss : List Segment} {c : Chain} (h : ofSegments ss = .ok c) :
    ss = segments c.first c.rest := by
  induction ss generalizing c with
  | nil => cases h
  | cons s r ih =>
      obtain ⟨run, separator⟩ := s
      cases r with
      | nil =>
          simp only [ofSegments] at h
          cases separator with
          | none => cases h; rfl
          | some t => cases h
      | cons s' r =>
          simp only [ofSegments] at h
          cases hc : ofSegments (s' :: r) with
          | error e => rw [hc] at h; cases separator <;> cases h
          | ok c' =>
              rw [hc] at h
              cases separator with
              | none => cases h
              | some t =>
                  cases h
                  rw [ih hc]
                  rfl

/-- **Cutting undoes joining.** Tokens are cut into the segments of a chain exactly when they
are its runs joined and the chain is proper. -/
theorem cut?_eq_segments_iff (hplain : Segment.Plain separators.toList)
    {ts run : List Token} :
    Segment.cut? separators ts = some (segments run rest) ↔
      tokens ⟨run, rest⟩ = ts ∧ Proper separators ⟨run, rest⟩ := by
  induction rest generalizing ts run with
  | nil =>
      constructor
      · intro h
        obtain ⟨-, hnil⟩ | ⟨hne, hpass, hss⟩ | ⟨_, _, _, _, -, -, -, -, hss⟩ :=
          Segment.cutFrom?_cases hplain h
        · exact absurd hnil (segments_ne_nil run [])
        · obtain rfl : run = ts := by simpa [segments] using hss
          exact ⟨by simp [tokens], ⟨hpass, by simp⟩, hne⟩
        · simp [segments] at hss
      · rintro ⟨rfl, ⟨hfirst, -⟩, hne⟩
        rw [tokens_singleton]
        exact Segment.cut?_of_whole hfirst hne
  | cons p r ih =>
      obtain ⟨t, next⟩ := p
      constructor
      · intro h
        obtain ⟨-, hnil⟩ | ⟨-, -, hss⟩ | ⟨run', t', r', rest', rfl, hrun, ht, hr', hss⟩ :=
          Segment.cutFrom?_cases hplain h
        · exact absurd hnil (segments_ne_nil run _)
        · simp [segments] at hss
        · simp only [segments, List.cons.injEq, Segment.mk.injEq, Option.some.injEq] at hss
          obtain ⟨⟨rfl, rfl⟩, rfl⟩ := hss
          obtain ⟨rfl, hproper⟩ := ih.mp hr'
          refine ⟨by simp [tokens], ⟨hrun, ?_⟩, hproper.last_ne⟩
          intro q hq
          rcases List.mem_cons.mp hq with rfl | hq
          · exact ⟨ht, hproper.first⟩
          · exact hproper.rest q hq
      · rintro ⟨rfl, hproper⟩
        obtain ⟨ht, hnext⟩ := hproper.rest (t, next) (by simp)
        have hrest : Segment.cut? separators (tokens ⟨next, r⟩) = some (segments next r) :=
          ih.mpr ⟨rfl, ⟨hnext, fun q hq => hproper.rest q (by simp [hq])⟩, hproper.last_ne⟩
        have hcons : tokens ⟨run, (t, next) :: r⟩ = run ++ t :: tokens ⟨next, r⟩ := by
          simp [tokens]
        rw [hcons, Segment.cut?_append_cons hplain hproper.first ht, hrest]
        rfl

/-- The tokens of the segments are the runs of the chain. -/
theorem map_tokens_segments (run : List Token) (rest : List (Token × List Token)) :
    (segments run rest).map Segment.tokens = runs ⟨run, rest⟩ := by
  induction rest generalizing run with
  | nil => rfl
  | cons p r ih =>
      rw [segments, List.map_cons, ih]
      rfl

/-- The last segment is the last run, without a separator. -/
theorem getLast?_segments (run : List Token) (rest : List (Token × List Token)) :
    (segments run rest).getLast? = some ⟨last run rest, none⟩ := by
  induction rest generalizing run with
  | nil => rfl
  | cons p r ih =>
      obtain ⟨s, ss, hs⟩ := List.exists_cons_of_ne_nil (segments_ne_nil p.2 r)
      rw [segments, hs, List.getLast?_cons_cons, ← hs]
      exact ih p.2

/-- Segments that were cut and whose last one has no separator are those of a chain. -/
theorem exists_segments_of_cut {separators : List Char} (hplain : Segment.Plain separators)
    {depth : Nat} {ts : List Token} {ss : List Segment} {s : Segment}
    (h : Segment.cutFrom? separators depth ts = some ss) (hlast : ss.getLast? = some s)
    (hs : s.separator = none) : ∃ run rest, ss = segments run rest := by
  induction ss generalizing depth ts with
  | nil => simp at hlast
  | cons first others ih =>
      obtain ⟨-, hnil⟩ | ⟨-, -, hss⟩ | ⟨run, t, r, rest, -, -, -, hr, hss⟩ :=
        Segment.cutFrom?_cases hplain h
      · cases hnil
      · exact ⟨ts, [], hss⟩
      · obtain ⟨rfl, rfl⟩ := List.cons.inj hss
        cases others with
        | nil =>
            obtain rfl := Option.some.inj hlast
            cases hs
        | cons s' others =>
            rw [List.getLast?_cons_cons] at hlast
            obtain ⟨run', rest', hrest⟩ := ih hr hlast
            exact ⟨run, (t, run') :: rest', by rw [hrest]; rfl⟩

end Chain

/-! ### Reading chains and calls -/

namespace Reading

/-- Tokens have the segments that they are cut into. -/
theorem segments_eq_ok_iff {separators : String} {ts : List Token} {ss : List Segment} :
    segments separators ts = .ok ss ↔ Segment.cut? separators ts = some ss := by
  constructor
  · exact cut?_of_segments
  · intro h
    simp [segments, h, pure, Except.pure]

/-- **A chain of tokens** is read exactly when they are its runs joined and it is proper. -/
theorem chainOf_eq_ok_iff {operators : String} (hplain : Segment.Plain operators.toList)
    {ts : List Token} {c : Chain} :
    chainOf operators ts = .ok c ↔ c.tokens = ts ∧ c.Proper operators := by
  constructor
  · intro h
    obtain ⟨ss, hcut, hchain⟩ := exists_of_chainOf h
    rw [Chain.segments_of_ofSegments hchain] at hcut
    exact (Chain.cut?_eq_segments_iff hplain).mp hcut
  · intro h
    have hcut := (Chain.cut?_eq_segments_iff hplain).mpr h
    have hchain := Chain.ofSegments_segments c.first c.rest
    simp only [chainOf, segments_eq_ok_iff.mpr hcut, bind, Except.bind, hchain]
    rfl

/-- The first opening parenthesis is the second token when one token stands before it. -/
theorem firstOpen?_eq_one_iff {ts : List Token} :
    firstOpen? ts = some 1 ↔ ∃ t r, t ≠ Token.openParen ∧ ts = t :: Token.openParen :: r := by
  constructor
  · intro h
    match ts, h with
    | t :: [], h =>
        simp only [firstOpen?, List.findIdx?_cons] at h
        split at h <;> simp at h
    | t :: u :: r, h =>
        simp only [firstOpen?, List.findIdx?_cons] at h
        split at h
        · simp at h
        · rename_i ht
          split at h
          · rename_i hu
            exact ⟨t, r, by simpa using ht, by simpa using hu⟩
          · simp [Option.map_eq_some_iff] at h
  · rintro ⟨t, r, ht, rfl⟩
    simp [firstOpen?, List.findIdx?_cons, ht]

/-- A closing parenthesis at the end is the last one. -/
theorem lastClose?_append_singleton (us : List Token) :
    lastClose? (us ++ [Token.closeParen]) = some us.length := by
  simp [lastClose?, List.findIdx?_cons]

/-- When the last closing parenthesis is the last token, the tokens end with it. -/
theorem eq_append_of_lastClose? {ts : List Token} {j : Nat} (h : lastClose? ts = some j)
    (hj : j + 1 = ts.length) : ∃ us, ts = us ++ [Token.closeParen] := by
  obtain ⟨us, t, rfl⟩ : ∃ us t, ts = us ++ [t] := by
    have hne : ts ≠ [] := by rintro rfl; simp at hj
    exact ⟨ts.dropLast, ts.getLast hne, (List.dropLast_append_getLast hne).symm⟩
  obtain ⟨k, hk, rfl⟩ := Option.map_eq_some_iff.mp h
  have hzero : k = 0 := by
    obtain ⟨hlt, -⟩ := List.findIdx?_eq_some_iff_getElem.mp hk
    simp only [List.length_reverse, List.length_append, List.length_singleton] at hlt hj
    omega
  subst hzero
  rw [List.reverse_append, List.reverse_singleton, List.singleton_append,
    List.findIdx?_cons] at hk
  split at hk
  · rename_i ht
    exact ⟨us, by rw [show t = Token.closeParen by simpa using ht]⟩
  · simp [Option.map_eq_some_iff] at hk

/-- **The arguments of a call** are what stands between a parenthesis right after the name
and one at the end. -/
theorem argumentTokens_eq_ok_iff {name : String} {ts inner : List Token} :
    argumentTokens name ts = .ok inner ↔
      ∃ t, t ≠ Token.openParen ∧ ts = t :: Token.openParen :: (inner ++ [Token.closeParen]) := by
  constructor
  · intro h
    rw [argumentTokens] at h
    split at h
    · rename_i i j hi hj
      split at h
      · cases h
      split at h
      · cases h
      rename_i hlt hends
      obtain rfl := Except.ok.inj h
      obtain ⟨rfl, hj'⟩ : i = 1 ∧ j + 1 = ts.length := by omega
      obtain ⟨t, r, ht, rfl⟩ := firstOpen?_eq_one_iff.mp hi
      obtain ⟨us, hus⟩ := eq_append_of_lastClose? hj hj'
      refine ⟨t, ht, ?_⟩
      have hr : r ≠ [] := by
        rintro rfl
        have := congrArg List.getLast? hus
        simp [Token.openParen, Token.closeParen] at this
      have hlast : r.getLast hr = Token.closeParen := by
        have := congrArg List.getLast? hus
        simpa [List.getLast?_cons, List.getLast?_eq_some_getLast hr] using this
      rw [← hlast]
      simp [List.dropLast_append_getLast hr]
    · cases h
  · rintro ⟨t, ht, rfl⟩
    have hopen := firstOpen?_eq_one_iff.mpr ⟨t, inner ++ [Token.closeParen], ht, rfl⟩
    have hclose := lastClose?_append_singleton (t :: Token.openParen :: inner)
    rw [List.cons_append, List.cons_append] at hclose
    simp only [argumentTokens, hopen, hclose]
    rw [if_neg (by simp), if_neg (by simp)]
    simp [pure, Except.pure]

/-- **The arguments of a call** are the runs between commas, each of them whole, the last one
not empty. -/
theorem argumentRuns_eq_ok_iff {name : String} {f : Function} {inner : List Token}
    {runs : List (List Token)} :
    argumentRuns name f inner = .ok runs ↔
      ∃ c : Chain, c.tokens = inner ∧ c.Proper "," ∧ runs = c.runs := by
  have hplain : Segment.Plain ",".toList := ⟨by decide, by decide⟩
  constructor
  · intro h
    cases hss : segments "," inner with
    | error e => simp only [argumentRuns, hss, bind, Except.bind] at h; cases h
    | ok ss =>
        simp only [argumentRuns, hss, bind, Except.bind] at h
        have hcut := segments_eq_ok_iff.mp hss
        split at h
        · cases h
        · rename_i s hlast
          split at h
          · cases h
          · rename_i hs
            obtain ⟨run, rest, rfl⟩ :=
              Chain.exists_segments_of_cut hplain hcut hlast (by simpa using hs)
            obtain ⟨hinner, hproper⟩ := (Chain.cut?_eq_segments_iff hplain).mp hcut
            obtain rfl := Except.ok.inj h
            exact ⟨⟨run, rest⟩, hinner, hproper, Chain.map_tokens_segments run rest⟩
  · rintro ⟨c, rfl, hproper, rfl⟩
    have hcut := (Chain.cut?_eq_segments_iff hplain).mpr ⟨rfl, hproper⟩
    have hlast := Chain.getLast?_segments c.first c.rest
    simp only [argumentRuns, segments_eq_ok_iff.mpr hcut, bind, Except.bind, hlast]
    rw [if_neg (by simp), Chain.map_tokens_segments]
    rfl

/-- A function is named by what it is found by. -/
theorem functionNamed_eq_ok_iff {name : String} {f : Function} :
    functionNamed name = .ok f ↔ Function.ofName? name = some f := by
  rw [functionNamed]
  cases Function.ofName? name with
  | none => simp [refuse, throw, throwThe, MonadExceptOf.throw]
  | some g => simp [pure, Except.pure]

/-- **A call** is a name, which no parenthesis has, and a chain of arguments between
parentheses. -/
theorem callOf_eq_ok_iff {ts : List Token} {f : Function} {runs : List (List Token)} :
    callOf ts = .ok (f, runs) ↔
      ∃ (t : Token) (c : Chain), t ≠ Token.openParen ∧
        ts = t :: Token.openParen :: (c.tokens ++ [Token.closeParen]) ∧
        Function.ofName? t.text = some f ∧ c.Proper "," ∧ runs = c.runs := by
  constructor
  · intro h
    cases ts with
    | nil => cases h
    | cons t r =>
        rw [callOf] at h
        cases hinner : argumentTokens t.text (t :: r) with
        | error e => simp only [hinner, bind, Except.bind] at h; cases h
        | ok inner =>
            cases hf : functionNamed t.text with
            | error e => simp only [hinner, hf, bind, Except.bind] at h; cases h
            | ok g =>
                cases hruns : argumentRuns t.text g inner with
                | error e => simp only [hinner, hf, hruns, bind, Except.bind] at h; cases h
                | ok rs =>
                    simp only [hinner, hf, hruns, bind, Except.bind] at h
                    obtain ⟨rfl, rfl⟩ := Prod.mk.inj (Except.ok.inj h)
                    obtain ⟨u, hu, hts⟩ := argumentTokens_eq_ok_iff.mp hinner
                    obtain ⟨rfl, rfl⟩ := List.cons.inj hts
                    obtain ⟨c, rfl, hproper, rfl⟩ := argumentRuns_eq_ok_iff.mp hruns
                    exact ⟨t, c, hu, rfl, functionNamed_eq_ok_iff.mp hf, hproper, rfl⟩
  · rintro ⟨t, c, ht, rfl, hf, hproper, rfl⟩
    have hinner : argumentTokens t.text _ = .ok c.tokens :=
      argumentTokens_eq_ok_iff.mpr ⟨t, ht, rfl⟩
    have hruns : argumentRuns t.text f c.tokens = .ok c.runs :=
      argumentRuns_eq_ok_iff.mpr ⟨c, rfl, hproper, rfl⟩
    simp only [callOf, hinner, functionNamed_eq_ok_iff.mpr hf, hruns, bind, Except.bind]
    rfl

/-! ### Parts of what is read -/

/-- The runs of a chain of tokens are made of these tokens. -/
theorem subset_of_chainOf {operators : String} (hplain : Segment.Plain operators.toList)
    {ts : List Token} {c : Chain} (h : chainOf operators ts = .ok c) :
    ∀ run ∈ c.runs, run ⊆ ts := by
  obtain ⟨rfl, -⟩ := (chainOf_eq_ok_iff hplain).mp h
  exact fun run hrun => Chain.subset_tokens_of_mem_runs hrun

/-- The arguments of a call are made of its tokens. -/
theorem subset_of_callOf {ts : List Token} {g : Function} {runs : List (List Token)}
    (h : callOf ts = .ok (g, runs)) : ∀ run ∈ runs, run ⊆ ts := by
  obtain ⟨t, c, -, rfl, -, -, rfl⟩ := callOf_eq_ok_iff.mp h
  intro run hrun u hu
  have htokens := Chain.subset_tokens_of_mem_runs hrun hu
  exact List.mem_cons_of_mem _ (List.mem_cons_of_mem _ (List.mem_append_left _ htokens))

end Reading

end SheetFormula
