import SheetFormula.Proofs.Parsing
import SheetFormula.Proofs.Printing

/-!
# Printing and Reading Back

A formula is printed as text, and the text is read again. The formula comes back exactly when
each of its numbers is printed as digits with an optional fraction that read as an equal
number.

That no other numbers come back is shown by counting. Each sign and each name among the
tokens of a formula makes one operation or call of the formula that is read. The text of a
formula has one of them for each of its own nodes, and a number that is printed in another
form adds at least one more. So what is read has more nodes than what was printed, whatever
it is.

## Main results

* `Derives.operations_eq`: **signs and names count the nodes** of the formula that is derived.
* `Formula.operations_tokens`: the signs and names among the tokens of a printed formula.
* `Formula.derives_tokens`: plain numbers come back, each as the number that is read.
* `Formula.read_text_iff`: **which formulas come back**.
-/

namespace SheetFormula

/-- A token **operates** when it makes a node of a formula: a sign does, of any kind, and so
does a name that is no comma. -/
def Token.Operates (t : Token) : Prop :=
  t.Adds ∨ t.Multiplies ∨ (t.kind = .functionName ∧ ¬ t.IsComma)

instance : DecidablePred Token.Operates := fun t =>
  inferInstanceAs (Decidable (t.Adds ∨ t.Multiplies ∨ (t.kind = .functionName ∧ ¬ t.IsComma)))

/-- The number of tokens that operate. -/
def operations (ts : List Token) : Nat := ts.countP fun t => decide t.Operates

/-- The operations in two runs are those in the first and those in the second. -/
theorem operations_append (ts us : List Token) :
    operations (ts ++ us) = operations ts + operations us := List.countP_append

/-- A token adds one operation or none. -/
theorem operations_cons (t : Token) (ts : List Token) :
    operations (t :: ts) = operations ts + if t.Operates then 1 else 0 := by
  rw [operations, List.countP_cons]
  by_cases ht : t.Operates
  · rw [if_pos (decide_eq_true ht), if_pos ht]
    rfl
  · rw [if_neg (by simpa using ht), if_neg ht]
    rfl

/-! ### Counting along a derivation -/

/-- The nodes of what is derived from a symbol that no token makes: the call whose arguments
are derived. -/
def Symbol.pending : Symbol → Nat
  | .arguments _ => 1
  | _ => 0

variable {resolve : String → Except Failure Float}

/-- A token that is neither a sign nor a name does not operate. -/
theorem not_operates {t : Token} (hkind : t.kind ≠ .functionName)
    (htext : ∀ c ∈ '(' :: ')' :: "+-*/,".toList, t.text.toList ≠ [c]) : ¬ t.Operates := by
  obtain ⟨hadds, hmultiplies⟩ := Token.not_sign htext
  rintro (h | h | ⟨hname, -⟩)
  · exact hadds h
  · exact hmultiplies h
  · exact hkind hname

/-- A number is no operation. -/
theorem not_operates_of_read {t : Token} {x : Float} (ht : t.kind = .number)
    (hx : Decimal.read? t.text = some x) : ¬ t.Operates :=
  not_operates (by rw [ht]; decide) (fun _ hc => toList_ne_of_read hx hc)

/-- A sign that adds is an operation. -/
theorem Token.Adds.operates {t : Token} (h : t.Adds) : t.Operates := Or.inl h

/-- A sign that multiplies is an operation. -/
theorem Token.Multiplies.operates {t : Token} (h : t.Multiplies) : t.Operates :=
  Or.inr (Or.inl h)

/-- A comma is no operation. -/
theorem Token.IsComma.not_operates {t : Token} (h : t.IsComma) : ¬ t.Operates := by
  rintro ((hsign | hsign) | (hsign | hsign) | ⟨-, hcomma⟩)
  · exact absurd (h.symm.trans hsign) (by decide)
  · exact absurd (h.symm.trans hsign) (by decide)
  · exact absurd (h.symm.trans hsign) (by decide)
  · exact absurd (h.symm.trans hsign) (by decide)
  · exact hcomma h

/-- The name of a function is an operation. -/
theorem operates_of_ofName? {t : Token} {g : Function} (ht : t.kind = .functionName)
    (hname : Function.ofName? t.text = some g) : t.Operates := by
  refine Or.inr (Or.inr ⟨ht, fun hcomma => ?_⟩)
  rw [hcomma] at hname
  cases hname

/-- Parentheses around some tokens do not operate. -/
theorem operations_group (ts : List Token) :
    operations (Token.openParen :: (ts ++ [Token.closeParen])) = operations ts := by
  have hopen : ¬ Token.openParen.Operates := by decide
  have hclose : ¬ Token.closeParen.Operates := by decide
  rw [operations_cons, operations_append, operations_cons, if_neg hopen, if_neg hclose]
  rfl

/-- **Signs and names count the nodes** of the formula that is derived. -/
theorem Derives.operations_eq (hresolve : Referring resolve) {s : Symbol} {ts : List Token}
    {f : Formula Float} (h : Derives resolve s ts f) : operations ts + s.pending = f.nodes := by
  induction h with
  | ofTerm _ ih => exact ih
  | ofSum _ ht _ ihl ihr =>
      rw [operations_append, operations_cons, if_pos ht.operates, Formula.nodes, ← ihl, ← ihr]
      simp only [Symbol.pending]
      omega
  | oneSlot _ ih => exact ih
  | moreSlots _ ht _ ihl ihr =>
      rw [operations_append, operations_cons, if_pos ht.operates, Formula.nodes, ← ihl, ← ihr]
      simp only [Symbol.pending]
      omega
  | emptySlot => rfl
  | filledSlot _ ih => exact ih
  | oneFactor _ ih => exact ih
  | moreFactors _ ht _ ihl ihr =>
      rw [operations_append, operations_cons, if_pos ht.operates, Formula.nodes, ← ihl, ← ihr]
      simp only [Symbol.pending]
      omega
  | number ht hx =>
      rw [operations_cons, if_neg (not_operates_of_read ht hx)]
      rfl
  | reference ht hx =>
      have hno := not_operates (by rw [ht]; decide) (fun c _ => hresolve _ _ hx c)
      rw [operations_cons, if_neg hno]
      rfl
  | group _ ih => rwa [operations_group]
  | call ht hname _ _ ih =>
      rw [operations_cons, operations_group, if_pos (operates_of_ofName? ht hname), ← ih]
      rfl
  | oneArgument _ ih =>
      rw [Formula.nodes, Formula.nodesList, Formula.nodesList, ← ih]
      rfl
  | moreArguments _ ht _ ihl ihr =>
      rw [operations_append, operations_cons, if_neg ht.not_operates]
      simp only [Formula.nodes, Formula.nodesList_eq_sum, List.map_append, List.sum_append,
        List.map_singleton, List.sum_singleton, Symbol.pending] at ihl ihr ⊢
      omega

/-! ### Counting in the text of a formula -/

namespace Formula

/-- The tokens that operate in the text of a number. -/
def excess (x : Float) : Nat := operations (numberTokens x)

/-- Commas between arguments do not operate. -/
theorem operations_intercalate (tss : List (List Token)) :
    operations ([commaToken].intercalate tss) = (tss.map operations).sum := by
  have hcomma : ¬ commaToken.Operates := Token.IsComma.not_operates rfl
  have hnil : operations [] = 0 := rfl
  induction tss with
  | nil => rfl
  | cons ts r ih =>
      cases r with
      | nil => simp
      | cons us s =>
          rw [List.intercalate_cons_cons, operations_append, operations_append, ih,
            operations_cons, if_neg hcomma, hnil]
          simp only [List.map_cons, List.sum_cons]
          omega

/-- The token of an operator is an operation. -/
theorem operates_operatorToken {operator : String} (h : operator ∈ ["+", "-", "*", "/"]) :
    (operatorToken operator).Operates := by
  simp only [List.mem_cons, List.not_mem_nil, or_false] at h
  obtain rfl | rfl | rfl | rfl := h
  all_goals decide

/-- The token of the name of a function is an operation. -/
theorem operates_nameToken (g : Function) : (nameToken g).Operates :=
  operates_of_ofName? rfl (Function.ofName?_name g)

/-- The text of a formula operates once for **each of its nodes**, and beyond that only in the
texts of its numbers. -/
theorem operations_tokens {f : Formula Float} (hf : f.WellFormed) :
    operations f.tokens = f.nodes + (f.leaves.map excess).sum := by
  induction f using Formula.induction with
  | leaf x => simp [tokens, nodes, leaves, excess]
  | binary operator l r ihl ihr =>
      obtain - | ⟨hoperator, hl, hr⟩ := hf
      rw [tokens, operations_group, operations_append, operations_cons,
        if_pos (operates_operatorToken hoperator), ihl hl, ihr hr, nodes, leaves, List.map_append,
        List.sum_append]
      omega
  | call g args ih =>
      obtain - | - | ⟨-, hargs⟩ := hf
      have hlist : ((tokensList args).map operations).sum =
          nodesList args + ((leavesList args).map excess).sum := by
        induction args with
        | nil => rfl
        | cons f r ihr =>
            have hfirst := ih f List.mem_cons_self (hargs f List.mem_cons_self)
            have hrest := ihr (fun a ha => ih a (List.mem_cons_of_mem f ha))
              (fun a ha => hargs a (List.mem_cons_of_mem f ha))
            rw [tokensList, nodesList, leavesList, List.map_cons, List.sum_cons, List.map_append,
              List.sum_append, hfirst, hrest]
            omega
      rw [tokens, operations_cons, operations_group, operations_intercalate,
        if_pos (operates_nameToken g), hlist, nodes, leaves]
      omega

/-- A number whose text does not operate is printed plainly. -/
theorem plainChars_of_excess {x : Float} (h : excess x = 0) :
    Lexeme.PlainChars (numberText x).toList := by
  obtain ⟨hplain, -⟩ | ⟨l, hodd, hl⟩ := numberTokens_cases x
  · exact hplain
  · have hoperates : ∀ l ∈ oddLexemes, l.token.Operates := by decide
    have hnone := List.countP_eq_zero.mp h l.token hl
    exact absurd (decide_eq_true (hoperates l hodd)) hnone

/-! ### Plain numbers come back -/

/-- The number that the text of a number reads as, when it can be read. -/
def reread (x : Float) : Float := (Decimal.read? (numberText x)).getD 0

/-- A number that is printed plainly is read from a single token. -/
theorem numberTokens_of_plain {x : Float} (h : Lexeme.PlainChars (numberText x).toList) :
    numberTokens x = [⟨.number, numberText x⟩] ∧
      Decimal.read? (numberText x) = some (reread x) := by
  constructor
  · rw [numberTokens, h.lexes, List.map_singleton, Lexeme.token, String.ofList_toList]
    rfl
  · obtain ⟨ds, fs, hds, hfs, htext⟩ := h
    rw [reread, Decimal.read?_of_plain hds hfs htext]
    rfl

/-- Arguments are derived one after another, behind some that are derived already. -/
theorem derives_arguments {resolve : String → Except Failure Float} {g : Function}
    {fs : List (Formula Float)} {h : Formula Float → Formula Float}
    (hfs : ∀ f ∈ fs, Derives resolve .expression f.tokens (h f)) {ts : List Token}
    {args : List (Formula Float)} (hts : Derives resolve (.arguments g) ts (.call g args)) :
    Derives resolve (.arguments g) (ts ++ (fs.map tokens).flatMap (commaToken :: ·))
      (.call g (args ++ fs.map h)) := by
  induction fs generalizing ts args with
  | nil => simpa using hts
  | cons f r ih =>
      have hf := hfs f List.mem_cons_self
      have hmore := ih (fun a ha => hfs a (List.mem_cons_of_mem f ha))
        (.moreArguments (t := commaToken) hts rfl hf)
      simpa using hmore

/-- A list with a separator between its members is the first one, and then each of the others
behind a separator. -/
theorem intercalate_cons (t : Token) (ts : List Token) (tss : List (List Token)) :
    [t].intercalate (ts :: tss) = ts ++ tss.flatMap (t :: ·) := by
  induction tss generalizing ts with
  | nil => simp
  | cons us s ih => rw [List.intercalate_cons_cons, ih, List.flatMap_cons]; simp

/-- A call is derived when its arguments are. -/
theorem derives_call {resolve : String → Except Failure Float} {g : Function}
    {args : List (Formula Float)} {h : Formula Float → Formula Float}
    (htakes : g.takes args.length = true)
    (hargs : ∀ f ∈ args, Derives resolve .expression f.tokens (h f)) :
    Derives resolve .factor (call g args).tokens (.call g (args.map h)) := by
  obtain ⟨first, rest, rfl⟩ := Function.eq_cons_of_takes htakes
  have hfirst := Derives.oneArgument (g := g) (hargs first List.mem_cons_self)
  have hlist := derives_arguments (fun f hf => hargs f (List.mem_cons_of_mem first hf)) hfirst
  rw [tokens, tokensList_eq_map, List.map_cons, intercalate_cons, List.map_cons]
  refine .call (t := nameToken g) rfl (Function.ofName?_name g) hlist ?_
  simpa using htakes

/-- **Plain numbers come back**: the tokens of a formula whose numbers are printed plainly
are a factor, which writes the formula with the numbers that are read. -/
theorem derives_tokens {resolve : String → Except Failure Float} {f : Formula Float}
    (hf : f.WellFormed) (hplain : ∀ x ∈ f.leaves, Lexeme.PlainChars (numberText x).toList) :
    Derives resolve .factor f.tokens (f.map reread) := by
  induction f using Formula.induction with
  | leaf x =>
      obtain ⟨htokens, hread⟩ := numberTokens_of_plain (hplain x (List.mem_singleton_self x))
      rw [tokens, htokens]
      exact .number rfl hread
  | binary operator l r ihl ihr =>
      obtain - | ⟨hoperator, hl, hr⟩ := hf
      have hleft := ihl hl (fun x hx => hplain x (List.mem_append_left _ hx))
      have hright := ihr hr (fun x hx => hplain x (List.mem_append_right _ hx))
      refine .group ?_
      simp only [List.mem_cons, List.not_mem_nil, or_false] at hoperator
      obtain rfl | rfl | rfl | rfl := hoperator
      · exact .ofSum (t := operatorToken "+") (.oneSlot (.filledSlot (.oneFactor hleft)))
          (Or.inl rfl) (.oneFactor hright)
      · exact .ofSum (t := operatorToken "-") (.oneSlot (.filledSlot (.oneFactor hleft)))
          (Or.inr rfl) (.oneFactor hright)
      · exact .ofTerm (.moreFactors (t := operatorToken "*") (.oneFactor hleft) (Or.inl rfl) hright)
      · exact .ofTerm (.moreFactors (t := operatorToken "/") (.oneFactor hleft) (Or.inr rfl) hright)
  | call g args ih =>
      obtain - | - | ⟨htakes, hargs⟩ := hf
      have hexpr : ∀ f ∈ args, Derives resolve .expression f.tokens (f.map reread) := by
        intro f hf
        refine .ofTerm (.oneFactor (ih f hf (hargs f hf) (fun x hx => hplain x ?_)))
        rw [leaves, leavesList_eq_flatMap]
        exact List.mem_flatMap.mpr ⟨f, hf, hx⟩
      rw [map, mapList_eq_map]
      exact derives_call htakes hexpr

/-! ### Which formulas come back -/

/-- **A formula comes back** when its text is read, exactly when each of its numbers is
printed as digits with an optional fraction that read as an equal number. What is read has as many
nodes as what was printed, so no number can be printed as more than one of them. -/
theorem read_text_iff {f : Formula Float} (hf : f.WellFormed) :
    (∃ g, (Computation.read none f.text).outcome = .ok g ∧ g.same f = true) ↔
    ∀ x ∈ f.leaves, Lexeme.PlainChars (numberText x).toList ∧
      ∃ y, Decimal.read? (numberText x) = some y ∧ (y == x) = true := by
  have hresolve := referring_resolve none
  have hread : (Computation.read none f.text).outcome =
      (Reading.expression (resolve none) f.tokens).outcome := by
    rw [Computation.read, tokenize_text hf]
    exact Computation.outcome_parse none f.tokens
  rw [hread]
  constructor
  · rintro ⟨g, hg, hsame⟩
    have hderives := Reading.derives_of_expression hg
    have hcount := hderives.operations_eq hresolve
    have hnodes : g.nodes = f.nodes := nodes_eq_of_sameBy hsame
    have hsum : (f.leaves.map excess).sum = 0 := by
      rw [operations_tokens hf, hnodes] at hcount
      simp only [Symbol.pending] at hcount
      omega
    have hplain : ∀ x ∈ f.leaves, Lexeme.PlainChars (numberText x).toList := by
      intro x hx
      exact plainChars_of_excess
        (List.sum_eq_zero_iff_forall_eq_nat.mp hsum _ (List.mem_map_of_mem hx))
    have hback := Reading.reads_of_derives hresolve
      (.ofTerm (.oneFactor (derives_tokens hf hplain)))
    obtain rfl : g = f.map reread := Except.ok.inj (hg.symm.trans hback)
    intro x hx
    refine ⟨hplain x hx, reread x, (numberTokens_of_plain (hplain x hx)).2, ?_⟩
    exact sameBy_map_iff.mp hsame x hx
  · intro h
    have hback := Reading.reads_of_derives hresolve
      (.ofTerm (.oneFactor (derives_tokens hf (fun x hx => (h x hx).1))))
    refine ⟨f.map reread, hback, sameBy_map_iff.mpr (fun x hx => ?_)⟩
    obtain ⟨-, y, hy, heq⟩ := h x hx
    have hy' : reread x = y := by
      rw [reread, hy]
      rfl
    rwa [hy']

/-- The largest of two and of three times four comes back. -/
theorem read_text_max :
    ∃ g, (Computation.read none
        (call .max [leaf 2, binary "*" (leaf 3) (leaf 4)]).text).outcome = .ok g ∧
      g.same (call .max [leaf 2, binary "*" (leaf 3) (leaf 4)]) = true := by
  have hf : WellFormed (call .max [leaf 2, binary "*" (leaf (3 : Float)) (leaf 4)]) := by
    refine .call (by decide) (fun f hf => ?_)
    simp only [List.mem_cons, List.not_mem_nil, or_false] at hf
    obtain rfl | rfl := hf
    · exact .leaf 2
    · exact .binary (by decide) (.leaf 3) (.leaf 4)
  have htexts : ∀ x ∈ [(2 : Float), 3, 4], ∃ d, Text.isDigit d = true ∧
      numberText x = String.ofList [d] ∧ Decimal.read? (numberText x) = some x ∧
      (x == x) = true := by
    intro x hx
    simp only [List.mem_cons, List.not_mem_nil, or_false] at hx
    obtain rfl | rfl | rfl := hx
    · exact ⟨'2', by decide⟩
    · exact ⟨'3', by decide⟩
    · exact ⟨'4', by decide⟩
  refine (read_text_iff hf).mpr (fun x hx => ?_)
  obtain ⟨d, hd, htext, hread, heq⟩ := htexts x hx
  refine ⟨⟨[d], [], ⟨List.cons_ne_nil d [], by simpa using hd⟩, by simp, ?_⟩, x, hread, heq⟩
  rw [htext, String.toList_ofList]
  rfl

end Formula

end SheetFormula
