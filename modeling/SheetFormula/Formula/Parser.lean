import SheetFormula.Decimal.Read
import SheetFormula.Formula.Basic
import SheetFormula.Fault.Basic
import SheetFormula.Token.Segment
import SheetFormula.Trace

/-!
# Reading Formulas

The formula that a list of tokens writes. There is no cursor: an expression is cut at its
outer plus and minus signs into terms, a term at its outer signs of multiplication and
division into factors, and a factor is a number, a cell reference, a group or a call. An
empty term counts as zero, which gives the signs `+` and `-` before an operand.

A cell reference is replaced by the number in its cell as soon as it is met. The notes of
reading are the references met so far with their numbers.

The recursion ends because a factor that is a group or a call holds fewer tokens, and the
three levels from expression to factor come down in between.
-/

namespace SheetFormula

/-- A cell reference and the number found for it. -/
structure Resolution where
  ref : String
  value : Float

/-- Reading with the references met. -/
abbrev Reading (α : Type) : Type := Trace Resolution Failure α

namespace Reading

/-- The number in a cell, noted as resolved. -/
def resolveNoting (resolve : String → Except Failure Float) (ref : String) : Reading Float := do
  let x ← resolve ref
  Trace.note ⟨ref, x⟩
  pure x

/-- The number that a number token writes. -/
def numberOf (t : Token) : Except Failure Float :=
  match Decimal.read? t.text with
  | some x => pure x
  | none => refuse (.invalidNumber t)

/-- An operand of a single token. -/
def single (resolve : String → Except Failure Float) (t : Token) : Reading (Formula Float) :=
  match t.kind with
  | .number => do return .leaf (← numberOf t)
  | .cellReference => do return .leaf (← resolveNoting resolve t.text)
  | _ => refuse (.unexpectedToken t)

/-- The segments of tokens between separators. -/
def segments (separators : String) (ts : List Token) : Except Failure (List Segment) :=
  match Segment.cut? separators ts with
  | some ss => pure ss
  | none => refuse .unbalanced

/-- The runs of tokens between operators. -/
def chainOf (operators : String) (ts : List Token) : Except Failure Chain := do
  let ss ← segments operators ts
  match Chain.ofSegments ss with
  | .ok c => pure c
  | .error none => refuse .emptyExpression
  | .error (some t) => refuse (.danglingOperator t.text)

/-- The place of the first token that opens a group. -/
def firstOpen? (ts : List Token) : Option Nat := ts.findIdx? (· == Token.openParen)

/-- The place of the last token that closes a group. -/
def lastClose? (ts : List Token) : Option Nat :=
  (ts.reverse.findIdx? (· == Token.closeParen)).map fun i => ts.length - 1 - i

/-- The tokens between the parentheses of a call, which must open right after the name and
close at the end. -/
def argumentTokens (name : String) (ts : List Token) : Except Failure (List Token) :=
  match firstOpen? ts, lastClose? ts with
  | some i, some j =>
      if j < i then refuse (.unbalancedCall name)
      else if i ≠ 1 ∨ j + 1 ≠ ts.length then refuse (.unexpectedSequence ts)
      else pure ((ts.drop 2).dropLast)
  | _, _ => refuse (.unbalancedCall name)

/-- The function that a name calls. -/
def functionNamed (name : String) : Except Failure Function :=
  match Function.ofName? name with
  | some f => pure f
  | none => refuse (.unknownFunction name)

/-- The runs of tokens that are the arguments of a call. -/
def argumentRuns (name : String) (f : Function) (inner : List Token) :
    Except Failure (List (List Token)) := do
  let ss ← segments "," inner
  match ss.getLast? with
  | none => refuse (.wrongArity f 0)
  | some last =>
      if last.separator.isSome then refuse (.missingArgument name)
      else pure (ss.map Segment.tokens)

/-- The function and the runs of tokens that are the arguments of a call, which begins with
the name of the function. -/
def callOf (ts : List Token) : Except Failure (Function × List (List Token)) :=
  match ts with
  | [] => throw .noTokens
  | t :: _ => do
      let inner ← argumentTokens t.text ts
      let f ← functionNamed t.text
      let runs ← argumentRuns t.text f inner
      pure (f, runs)

/-- Tokens that have segments are cut into them. -/
theorem cut?_of_segments {separators : String} {ts : List Token} {ss : List Segment}
    (h : segments separators ts = .ok ss) : Segment.cut? separators ts = some ss := by
  unfold segments at h
  split at h
  · cases h; assumption
  · cases h

/-- What a chain of tokens comes from. -/
theorem exists_of_chainOf {operators : String} {ts : List Token} {c : Chain}
    (h : chainOf operators ts = .ok c) :
    ∃ ss, Segment.cut? operators ts = some ss ∧ Chain.ofSegments ss = .ok c := by
  unfold chainOf at h
  cases hs : segments operators ts with
  | error e => rw [hs] at h; cases h
  | ok ss =>
      rw [hs] at h
      change (match Chain.ofSegments ss with
        | .ok c => pure c
        | .error none => refuse .emptyExpression
        | .error (some t) => refuse (.danglingOperator t.text)) = Except.ok c at h
      split at h
      · cases h; exact ⟨ss, cut?_of_segments hs, by assumption⟩
      · cases h
      · cases h

/-- The first run of a chain of tokens is no longer than they are. -/
theorem length_first_le {operators : String} {ts : List Token} {c : Chain}
    (h : chainOf operators ts = .ok c) : c.first.length ≤ ts.length := by
  obtain ⟨_, hcut, hchain⟩ := exists_of_chainOf h
  exact Chain.length_first_le hcut hchain

/-- A further run of a chain of tokens is no longer than they are. -/
theorem length_rest_le {operators : String} {ts : List Token} {c : Chain}
    (h : chainOf operators ts = .ok c) {p : Token × List Token} (hp : p ∈ c.rest) :
    p.2.length ≤ ts.length := by
  obtain ⟨_, hcut, hchain⟩ := exists_of_chainOf h
  exact Chain.length_rest_le hcut hchain hp

/-- The tokens between the parentheses of a call are fewer than all of it. -/
theorem length_argumentTokens_lt {name : String} {ts inner : List Token}
    (h : argumentTokens name ts = .ok inner) : inner.length < ts.length := by
  unfold argumentTokens at h
  split at h
  · split at h
    · cases h
    · split at h
      · cases h
      · cases h
        simp only [List.length_dropLast, List.length_drop]
        omega
  · cases h

/-- The arguments of a call are shorter than the call. -/
theorem length_lt_of_callOf {ts : List Token} {f : Function} {runs : List (List Token)}
    (h : callOf ts = .ok (f, runs)) {run : List Token} (hrun : run ∈ runs) :
    run.length < ts.length := by
  unfold callOf at h
  cases ts with
  | nil => cases h
  | cons t r =>
      cases hi : argumentTokens t.text (t :: r) with
      | error e => simp only [hi, bind, Except.bind] at h; cases h
      | ok inner =>
          cases hf : functionNamed t.text with
          | error e => simp only [hi, hf, bind, Except.bind] at h; cases h
          | ok g =>
              simp only [hi, hf, argumentRuns, bind, Except.bind] at h
              cases hs : segments "," inner with
              | error e => simp only [hs] at h; cases h
              | ok ss =>
                  simp only [hs] at h
                  split at h
                  · cases h
                  · rename_i hruns
                    split at hruns
                    · cases hruns
                    · split at hruns
                      · cases hruns
                      · cases hruns
                        cases h
                        obtain ⟨s, hs', rfl⟩ := List.mem_map.mp hrun
                        have hle := Segment.length_le_of_cut? (cut?_of_segments hs) s hs'
                        have hlt := length_argumentTokens_lt hi
                        omega

mutual

/-- A sum or difference of terms. -/
def expression (resolve : String → Except Failure Float) (ts : List Token) :
    Reading (Formula Float) :=
  match _hc : chainOf "+-" ts with
  | .error e => throw e
  | .ok c => do
      let first ← slot resolve c.first
      let rest ← c.rest.attach.mapM fun p => do
        let right ← slot resolve p.1.2
        pure (p.1.1.text, right)
      pure (Formula.joinLeft first rest)
termination_by (ts.length, 5)
decreasing_by
  · have := length_first_le _hc
    simp only [Prod.lex_def]; omega
  · have := length_rest_le _hc p.2
    simp only [Prod.lex_def]; omega

/-- A term, or nothing, which counts as zero. -/
def slot (resolve : String → Except Failure Float) (ts : List Token) :
    Reading (Formula Float) :=
  if ts.isEmpty then pure (.leaf 0) else term resolve ts
termination_by (ts.length, 4)

/-- A product or quotient of factors. -/
def term (resolve : String → Except Failure Float) (ts : List Token) :
    Reading (Formula Float) :=
  match _hc : chainOf "*/" ts with
  | .error e => throw e
  | .ok c => do
      let first ← operand resolve c.first
      let rest ← c.rest.attach.mapM fun p => do
        let right ← operand resolve p.1.2
        pure (p.1.1.text, right)
      pure (Formula.joinLeft first rest)
termination_by (ts.length, 3)
decreasing_by
  · have := length_first_le _hc
    simp only [Prod.lex_def]; omega
  · have := length_rest_le _hc p.2
    simp only [Prod.lex_def]; omega

/-- A factor where there has to be one. -/
def operand (resolve : String → Except Failure Float) (ts : List Token) :
    Reading (Formula Float) :=
  if ts.isEmpty then refuse .missingOperand else factor resolve ts
termination_by (ts.length, 2)

/-- A number, a cell reference, a group or a call. -/
def factor (resolve : String → Except Failure Float) (ts : List Token) :
    Reading (Formula Float) :=
  match ts with
  | [] => refuse .emptyExpression
  | [t] => single resolve t
  | t :: t' :: r =>
      if t = Token.openParen ∧ (t' :: r).getLast? = some Token.closeParen then
        expression resolve (t' :: r).dropLast
      else if t.kind = .functionName then call resolve (t :: t' :: r)
      else refuse (.unexpectedSequence (t :: t' :: r))
termination_by (ts.length, 1)
decreasing_by
  · simp only [Prod.lex_def, List.length_dropLast, List.length_cons]; omega
  · exact Prod.Lex.right _ Nat.zero_lt_one

/-- A call of a function: its name and the arguments between parentheses. -/
def call (resolve : String → Except Failure Float) (ts : List Token) :
    Reading (Formula Float) :=
  match _hc : callOf ts with
  | .error e => throw e
  | .ok (f, runs) => do
      let args ← runs.attach.mapM fun run => expression resolve run.1
      if !f.takes args.length then refuse (.wrongArity f args.length)
      pure (.call f args)
termination_by (ts.length, 0)
decreasing_by
  have := length_lt_of_callOf _hc run.2
  simp only [Prod.lex_def]; omega

end

end Reading

end SheetFormula
