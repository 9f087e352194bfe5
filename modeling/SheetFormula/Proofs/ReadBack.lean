import SheetFormula.Proofs.Doubles
import SheetFormula.Proofs.RoundTrip
import SheetFormula.Proofs.Evaluations
import SheetFormula.Proofs.Stages
import SheetFormula.Proofs.TokenOrder

/-!
# Reading Printed Formulas Back

A minus sign is no part of a number in the grammar. It is an operator that stands between two
slots, and before it there may be nothing, which counts as zero. So the text of a negative
number is read as a difference from zero where an operand of a sum may stand, and it cannot be
read behind a sign of multiplication or division.

## Main results

* `Formula.derives_readBack`: **what the text of a legible formula is read as**.
* `Formula.legible_of_derives`: a formula whose text can be read is legible.
* `Computation.compile_text_iff`: both together, for the whole computation.
-/

namespace SheetFormula

open Lexeme (Lexes PlainChars AreDigits)

namespace Formula

/-! ### Signs in the texts of numbers -/

/-- Whether the text of a number begins with a **minus sign**. -/
def isMinus (x : Float) : Bool := (numberText x).toList.head? == some '-'

/-- The text of the **size** of a number, which is its text without the minus sign. -/
def sizeText (x : Float) : String :=
  String.ofList (if isMinus x then (numberText x).toList.tail else (numberText x).toList)

/-- The number that the text of the size of a number reads as, when it can be read. -/
def size (x : Float) : Float := (Decimal.read? (sizeText x)).getD 0

/-- A number is **legible** when the text of its size is digits with an optional fraction. -/
def IsLegible (x : Float) : Prop := PlainChars (sizeText x).toList

/-- A number is legible when its size is written with one digit. -/
theorem isLegible_of_digit {x : Float} {d : Char} (hd : Text.isDigit d = true)
    (hx : (sizeText x).toList = [d]) : IsLegible x :=
  ⟨[d], [], ⟨List.cons_ne_nil d [], by simpa using hd⟩, by simp, hx⟩

/-- The text of a size begins with no minus sign. -/
theorem IsSizeText.head?_ne {cs : List Char} (h : IsSizeText cs) : cs.head? ≠ some '-' := by
  have hdigits : ∀ {ds rest : List Char}, AreDigits ds → (ds ++ rest).head? ≠ some '-' := by
    intro ds rest hds hhead
    obtain ⟨d, r, rfl⟩ := List.exists_cons_of_ne_nil hds.ne_nil
    obtain rfl : d = '-' := Option.some.inj hhead
    exact absurd (hds.isDigit '-' List.mem_cons_self) (by decide)
  cases h with
  | nan | infinite => decide
  | plain h =>
      obtain ⟨ds, fs, hds, -, rfl⟩ := h
      exact hdigits hds
  | exponent e hds _ =>
      rw [List.append_assoc]
      exact hdigits hds

/-- The text of a number is that of its size, behind a minus sign if it has one. -/
theorem toList_numberText (x : Float) :
    IsSizeText (sizeText x).toList ∧ (numberText x).toList =
      if isMinus x then '-' :: (sizeText x).toList else (sizeText x).toList := by
  obtain ⟨cs, hcs, h | h⟩ := isSizeText_numberText x
  · have hminus : isMinus x = false := by
      rw [isMinus, h, beq_eq_false_iff_ne]
      exact hcs.head?_ne
    simpa [sizeText, hminus, h] using hcs
  · have hminus : isMinus x = true := by
      rw [isMinus, h]
      rfl
    simpa [sizeText, hminus, h] using hcs

/-- The text of a number is cut into that of its size, behind a minus sign if it has one. -/
theorem numberTokens_eq {x : Float} {ls : List Lexeme} (h : Lexes (sizeText x).toList ls) :
    numberTokens x =
      if isMinus x then operatorToken "-" :: ls.map Lexeme.token else ls.map Lexeme.token := by
  obtain ⟨-, htext⟩ := toList_numberText x
  rw [Lexes] at h
  rw [numberTokens, htext]
  cases isMinus x with
  | false => simp only [Bool.false_eq_true, if_false, h]
  | true =>
      simp only [if_true, Lexeme.scan_sign (c := '-') rfl, h]
      rfl

/-- The token of the size of a number. -/
def sizeToken (x : Float) : Token := ⟨.number, sizeText x⟩

/-- A legible number is cut into the token of its size, behind a minus sign if it has one. -/
theorem numberTokens_of_legible {x : Float} (h : IsLegible x) :
    numberTokens x = if isMinus x then [operatorToken "-", sizeToken x] else [sizeToken x] := by
  rw [numberTokens_eq h.lexes, List.map_singleton, Lexeme.token, String.ofList_toList]
  rfl

/-- The text of an illegible number holds a name. -/
theorem exists_name_of_not_legible {x : Float} (h : ¬ IsLegible x) :
    ∃ l ∈ nameLexemes, l.token ∈ numberTokens x := by
  obtain ⟨ls, hls, ⟨hplain, -⟩ | ⟨l, hl, hname⟩⟩ := (toList_numberText x).1.lexes
  · exact absurd hplain h
  · refine ⟨l, hname, ?_⟩
    have hmem : l.token ∈ ls.map Lexeme.token := List.mem_map_of_mem hl
    rw [numberTokens_eq hls]
    split
    · exact List.mem_cons_of_mem _ hmem
    · exact hmem

/-- The size of a legible number is what its text reads as. -/
theorem read?_sizeText {x : Float} (h : IsLegible x) :
    Decimal.read? (sizeText x) = some (size x) := by
  obtain ⟨ds, fs, hds, hfs, htext⟩ := h
  rw [size, Decimal.read?_of_plain hds hfs htext]
  rfl

end Formula

/-- The number that a minus sign before plain digits writes. -/
theorem Decimal.read?_minus {s t : String} (ht : PlainChars t.toList)
    (hs : s.toList = '-' :: t.toList) : read? s = (read? t).map (-·) := by
  obtain ⟨ds, fs, hds, hfs, htext⟩ := ht
  have hplain : ∀ c ∈ t.toList, IsPlainChar c := htext ▸ isPlainChar_of_mem hds.isDigit hfs
  have hbare : ∀ c ∈ s.toList, IsBare c := by
    rw [hs]
    exact List.forall_mem_cons.mpr ⟨by decide, fun c hc => (hplain c hc).isBare⟩
  have hunsigned := readUnsigned?_of_plain hds hfs
  rw [← htext] at hunsigned
  rw [read?_of_plain hds hfs htext, ← hunsigned, ← readUnsigned?_true, read?_of_bare hbare, hs]
  rfl

namespace Formula

/-- A legible number that its text reads as is its size, or the negative of its size. -/
theorem eq_size {x : Float} (h : IsLegible x) (hread : Decimal.read? (numberText x) = some x) :
    x = if isMinus x then -size x else size x := by
  obtain ⟨-, htext⟩ := toList_numberText x
  have hsize := read?_sizeText h
  cases hminus : isMinus x with
  | false =>
      rw [hminus] at htext
      have hsame : numberText x = sizeText x := String.toList_inj.mp htext
      rw [hsame, hsize] at hread
      exact (Option.some.inj hread).symm
  | true =>
      rw [hminus] at htext
      rw [Decimal.read?_minus h htext, hsize] at hread
      exact (Option.some.inj hread).symm

/-! ### What a printed formula is read as -/

/-- The size of a **negative number that stands alone**, as its text shows it. -/
def negative? : Formula Float → Option Float
  | .leaf x => if isMinus x then some (size x) else none
  | _ => none

/-- A formula is **legible** when its numbers are, and no negative number stands alone behind a
sign of multiplication or division. -/
inductive Legible : Formula Float → Prop
  | leaf {x : Float} : IsLegible x → Legible (.leaf x)
  | binary {operator : String} {l r : Formula Float} : Legible l → Legible r →
      (operator ∈ ["+", "-"] ∨ negative? r = none) → Legible (.binary operator l r)
  | call {g : Function} {args : List (Formula Float)} : (∀ f ∈ args, Legible f) →
      Legible (.call g args)

/-- An operation on `l` and `r` as its text is read, when `l'` and `r'` are what these two are
read as. A minus sign before the right side takes everything before it as its left side, and
one before a factor takes the whole product. -/
def rejoin (operator : String) (l r l' r' : Formula Float) : Formula Float :=
  match negative? l, negative? r with
  | _, some y => .binary "-" (.binary operator l' (.leaf 0)) (.leaf y)
  | some x, none =>
      if operator ∈ ["+", "-"] then .binary operator l' r'
      else .binary "-" (.leaf 0) (.binary operator (.leaf x) r')
  | none, none => .binary operator l' r'

mutual

/-- The formula that the **text of a formula is read as**. -/
def readBack : Formula Float → Formula Float
  | .leaf x => if isMinus x then .binary "-" (.leaf 0) (.leaf (size x)) else .leaf (size x)
  | .binary operator l r => rejoin operator l r (readBack l) (readBack r)
  | .call g args => .call g (readBackList args)

def readBackList : List (Formula Float) → List (Formula Float)
  | [] => []
  | f :: r => readBack f :: readBackList r

end

/-- A list of formulas is read back one by one. -/
theorem readBackList_eq_map (fs : List (Formula Float)) : readBackList fs = fs.map readBack := by
  induction fs with
  | nil => rfl
  | cons f r ih => rw [readBackList, ih, List.map_cons]

/-- How the tokens of a formula are derived: as a factor, or, for a negative number that
stands alone, as a difference from zero. -/
inductive DerivesBack (resolve : String → Except Failure Float) (f : Formula Float) : Prop
  | factor : negative? f = none → Derives resolve .factor f.tokens f.readBack →
      DerivesBack resolve f
  | minus {t : Token} {y : Float} : negative? f = some y → f.tokens = [operatorToken "-", t] →
      Derives resolve .factor [t] (.leaf y) →
      f.readBack = .binary "-" (.leaf 0) (.leaf y) → DerivesBack resolve f

variable {resolve : String → Except Failure Float} {f : Formula Float}

/-- The sign `-` adds. -/
theorem adds_minus : (operatorToken "-").Adds := Or.inr rfl

/-- What is read back as a factor is read back as a sum. -/
theorem DerivesBack.sum (h : DerivesBack resolve f) : Derives resolve .sum f.tokens f.readBack := by
  cases h with
  | factor _ hf => exact .oneSlot (.filledSlot (.oneFactor hf))
  | minus _ htokens ht hback =>
      rw [htokens, hback]
      exact .moreSlots (.oneSlot .emptySlot) adds_minus (.filledSlot (.oneFactor ht))

/-- What is read back as a factor is read back as an expression. -/
theorem DerivesBack.expression (h : DerivesBack resolve f) :
    Derives resolve .expression f.tokens f.readBack := by
  cases h with
  | factor _ hf => exact .ofTerm (.oneFactor hf)
  | minus _ htokens ht hback =>
      rw [htokens, hback]
      exact .ofSum (.oneSlot .emptySlot) adds_minus (.oneFactor ht)

/-- A number with a text that can be read is read back. -/
theorem derivesBack_leaf {x : Float} (h : IsLegible x) : DerivesBack resolve (.leaf x) := by
  have hsize : Derives resolve .factor [sizeToken x] (.leaf (size x)) :=
    .number rfl (read?_sizeText h)
  have htokens := numberTokens_of_legible h
  cases hminus : isMinus x with
  | false =>
      refine .factor (by rw [negative?, hminus]; rfl) ?_
      rw [tokens, htokens, readBack, hminus]
      exact hsize
  | true =>
      rw [hminus, if_pos rfl] at htokens
      refine .minus (by rw [negative?, hminus, if_pos rfl]) htokens hsize ?_
      rw [readBack, hminus, if_pos rfl]

/-- An operator with a meaning adds, or it multiplies. -/
theorem adds_or_multiplies {operator : String} (h : operator ∈ ["+", "-", "*", "/"]) :
    (operator ∈ ["+", "-"] ∧ (operatorToken operator).Adds) ∨
      (operator ∉ ["+", "-"] ∧ (operatorToken operator).Multiplies) := by
  simp only [List.mem_cons, List.not_mem_nil, or_false] at h
  obtain rfl | rfl | rfl | rfl := h
  · exact Or.inl ⟨by decide, Or.inl rfl⟩
  · exact Or.inl ⟨by decide, Or.inr rfl⟩
  · exact Or.inr ⟨by decide, Or.inl rfl⟩
  · exact Or.inr ⟨by decide, Or.inr rfl⟩

/-- The tokens between the parentheses of an operation are read as the sides joined again. -/
theorem derives_rejoin {operator : String} {l r : Formula Float}
    (hoperator : operator ∈ ["+", "-", "*", "/"]) (hl : DerivesBack resolve l)
    (hr : DerivesBack resolve r) (hsign : operator ∈ ["+", "-"] ∨ negative? r = none) :
    Derives resolve .expression (l.tokens ++ operatorToken operator :: r.tokens)
      (rejoin operator l r l.readBack r.readBack) := by
  obtain ⟨hmem, hadds⟩ | ⟨hmem, hmultiplies⟩ := adds_or_multiplies hoperator
  · cases hr with
    | factor hnegative hr =>
        have hjoin : rejoin operator l r l.readBack r.readBack =
            .binary operator l.readBack r.readBack := by
          rw [rejoin, hnegative]
          cases negative? l <;> simp [hmem]
        rw [hjoin]
        exact .ofSum hl.sum hadds (.oneFactor hr)
    | minus hnegative htokens ht hback =>
        have hleft := hl.sum.moreSlots hadds .emptySlot
        have hsum := hleft.ofSum adds_minus (.oneFactor ht)
        rw [rejoin, hnegative, htokens]
        simpa [operatorToken] using hsum
  · have hnegative := hsign.resolve_left hmem
    obtain ⟨-, hr⟩ | ⟨hminus, -⟩ := hr
    · cases hl with
      | factor hnone hl =>
          rw [rejoin, hnone, hnegative]
          exact .ofTerm (.moreFactors (.oneFactor hl) hmultiplies hr)
      | minus hsome htokens ht hback =>
          have hproduct := (Derives.oneFactor ht).moreFactors hmultiplies hr
          have hsum := (Derives.oneSlot .emptySlot).ofSum adds_minus hproduct
          rw [rejoin, hsome, hnegative, htokens]
          simp only [if_neg hmem]
          exact hsum
    · rw [hnegative] at hminus
      cases hminus

/-- **What the text of a legible formula is read as.** -/
theorem derives_readBack (hf : f.WellFormed) (hlegible : f.Legible) : DerivesBack resolve f := by
  induction f using Formula.induction with
  | leaf x =>
      cases hlegible with
      | leaf hx => exact derivesBack_leaf hx
  | binary operator l r ihl ihr =>
      obtain - | ⟨hoperator, hl, hr⟩ := hf
      obtain - | ⟨hlegiblel, hlegibler, hsign⟩ := hlegible
      have hinside := derives_rejoin hoperator (ihl hl hlegiblel) (ihr hr hlegibler) hsign
      refine .factor rfl ?_
      rw [readBack, tokens]
      exact .group hinside
  | call g args ih =>
      obtain - | - | ⟨htakes, hargs⟩ := hf
      obtain - | - | hlegible := hlegible
      have hexpr : ∀ f ∈ args, Derives resolve .expression f.tokens f.readBack := fun f hf =>
        (ih f hf (hargs f hf) (hlegible f hf)).expression
      refine .factor rfl ?_
      rw [readBack, readBackList_eq_map]
      exact derives_call htakes hexpr

/-! ### Formulas whose texts can be read -/

/-- The tokens of an argument stand next to each other in those of the call. -/
theorem tokens_isInfix_call {g : Function} {args : List (Formula Float)} {f : Formula Float}
    (hf : f ∈ args) : f.tokens <:+: (call g args).tokens := by
  have hlist : f.tokens <:+: [commaToken].intercalate (args.map tokens) := by
    obtain ⟨first, rest, rfl⟩ := List.exists_cons_of_ne_nil (List.ne_nil_of_mem hf)
    rw [List.map_cons, intercalate_cons]
    obtain rfl | hf := List.mem_cons.mp hf
    · exact (List.prefix_append _ _).isInfix
    · have hmem : commaToken :: f.tokens ∈ (rest.map tokens).map (commaToken :: ·) :=
        List.mem_map_of_mem (List.mem_map_of_mem hf)
      have hcomma : f.tokens <:+: commaToken :: f.tokens := (List.suffix_cons _ _).isInfix
      rw [List.flatMap_def]
      exact hcomma.trans ((List.infix_of_mem_flatten hmem).trans
        (List.suffix_append _ _).isInfix)
  rw [tokens, tokensList_eq_map]
  exact hlist.trans ⟨[nameToken g, Token.openParen], [Token.closeParen], by simp⟩

/-- A negative number that stands alone begins with a minus sign. -/
theorem exists_tokens_of_negative {f : Formula Float} {y : Float} (h : negative? f = some y) :
    ∃ ts, f.tokens = operatorToken "-" :: ts := by
  cases f with
  | leaf x =>
      obtain ⟨ls, hls, -⟩ := (toList_numberText x).1.lexes
      cases hminus : isMinus x with
      | false =>
          rw [negative?, hminus] at h
          cases h
      | true => exact ⟨_, by rw [tokens, numberTokens_eq hls, hminus, if_pos rfl]⟩
  | binary | call => cases h

/-- What the tokens of a formula are made of is in order when they are. -/
theorem legible_of_inOrder {f : Formula Float} (hf : f.WellFormed)
    (hknown : ∀ t ∈ f.tokens, t.Known) (hneighbours : f.tokens.IsChain Token.MayPrecede) :
    f.Legible := by
  induction f using Formula.induction with
  | leaf x =>
      refine .leaf (Classical.byContradiction fun hx => ?_)
      obtain ⟨l, hl, hmem⟩ := exists_name_of_not_legible hx
      have hunknown : ∀ l ∈ nameLexemes, ¬ l.token.Known := by decide
      exact hunknown l hl (hknown _ hmem)
  | binary operator l r ihl ihr =>
      obtain - | ⟨hoperator, hl, hr⟩ := hf
      have hleft : l.tokens <:+: (binary operator l r).tokens :=
        ⟨[Token.openParen], operatorToken operator :: r.tokens ++ [Token.closeParen], by
          simp [tokens]⟩
      have hright : r.tokens <:+: (binary operator l r).tokens :=
        ⟨Token.openParen :: (l.tokens ++ [operatorToken operator]), [Token.closeParen], by
          simp [tokens]⟩
      have hchainl := List.IsChain.infix hneighbours hleft
      have hchainr := List.IsChain.infix hneighbours hright
      refine .binary (ihl hl (fun t ht => hknown t (hleft.subset ht)) hchainl)
        (ihr hr (fun t ht => hknown t (hright.subset ht)) hchainr) ?_
      obtain ⟨hmem, -⟩ | ⟨-, hmultiplies⟩ := adds_or_multiplies hoperator
      · exact Or.inl hmem
      · refine Or.inr (Option.eq_none_iff_forall_ne_some.mpr fun y hnegative => ?_)
        obtain ⟨ts, hts⟩ := exists_tokens_of_negative hnegative
        have hpair : [operatorToken operator, operatorToken "-"] <:+:
            (binary operator l r).tokens :=
          ⟨Token.openParen :: l.tokens, ts ++ [Token.closeParen], by simp [tokens, hts]⟩
        have hchain := List.IsChain.infix hneighbours hpair
        exact List.isChain_pair.mp hchain hmultiplies adds_minus
  | call g args ih =>
      obtain - | - | ⟨-, hargs⟩ := hf
      refine .call (fun f hf => ?_)
      have hargument := tokens_isInfix_call (g := g) hf
      have hchain := List.IsChain.infix hneighbours hargument
      exact ih f hf (hargs f hf) (fun t ht => hknown t (hargument.subset ht)) hchain

/-- **A formula whose text can be read is legible.** -/
theorem legible_of_derives (hresolve : Referring resolve) {f g : Formula Float}
    (hf : f.WellFormed) (h : Derives resolve .expression f.tokens g) : f.Legible := by
  obtain ⟨hknown, hneighbours, -⟩ := (h.inOrder hresolve).1
  exact legible_of_inOrder hf hknown hneighbours

end Formula

namespace Computation

/-- Compiling a text succeeds exactly when reading it does, with the same formula. -/
theorem outcome_compile_eq_ok_iff {grid : Option Grid} {text : String} {f : Formula Float} :
    (compile grid text).outcome = .ok f ↔ (read grid text).outcome = .ok f := by
  obtain ⟨g, hread, hcompile, -⟩ | ⟨g, hread, hcompile, -⟩ | ⟨e, -, hread, hcompile, -⟩ :=
    compile_cases grid text
  · rw [hread, hcompile]
  · rw [hread, hcompile]
  · rw [hread, hcompile]

/-- What is compiled is what the tokens of the text are derived as. -/
theorem outcome_compile_of_tokenize {grid : Option Grid} {text : String} {ts : List Token}
    (h : tokenize text = .ok ts) {f : Formula Float} :
    (compile grid text).outcome = .ok f ↔ Derives (resolve grid) .expression ts f := by
  rw [outcome_compile_eq_ok_iff, outcome_read_eq_ok_iff h]

/-- What is compiled is well formed. -/
theorem wellFormed_of_compile {grid : Option Grid} {text : String} {f : Formula Float}
    (h : (compile grid text).outcome = .ok f) : f.WellFormed := by
  cases htokens : tokenize text with
  | error site =>
      rw [outcome_compile_eq_ok_iff, read, htokens] at h
      cases h
  | ok ts => exact ((outcome_compile_of_tokenize htokens).mp h).wellFormed

/-- The text of a well formed formula can be compiled **exactly when it is legible**, and then
to what it is read as. -/
theorem compile_text_iff {f g : Formula Float} (hf : f.WellFormed) :
    (compile none f.text).outcome = .ok g ↔ f.Legible ∧ g = f.readBack := by
  have hcompile : ∀ g, (compile none f.text).outcome = .ok g ↔
      Derives (resolve none) .expression f.tokens g := fun g =>
    outcome_compile_of_tokenize (Formula.tokenize_text hf)
  have hback : f.Legible → (compile none f.text).outcome = .ok f.readBack := fun hlegible =>
    (hcompile _).mpr (Formula.derives_readBack hf hlegible).expression
  constructor
  · intro h
    have hlegible := Formula.legible_of_derives (referring_resolve none) hf ((hcompile g).mp h)
    exact ⟨hlegible, Except.ok.inj (h.symm.trans (hback hlegible))⟩
  · rintro ⟨hlegible, rfl⟩
    exact hback hlegible

end Computation

end SheetFormula
