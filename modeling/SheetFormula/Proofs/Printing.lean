import SheetFormula.Proofs.NumberText
import SheetFormula.Proofs.Trees

/-!
# The Tokens of a Printed Formula

The text of a formula is cut into the tokens that were meant: parentheses around each
operation, a comma between arguments, and whatever the texts of its numbers are cut into.
Pieces do not run into each other, as each is followed by a space or a sign.

## Main results

* `Formula.tokenize_text`: **the tokens of the text of a formula**.
* `Formula.numberTokens_cases`: a number is printed as one number token, or with a token that
  is none.
-/

namespace SheetFormula

namespace Formula

open Lexeme

/-! ### Tokens of formulas -/

/-- The tokens into which the text of a number is cut. -/
def numberTokens (x : Float) : List Token := (scan (numberText x).toList).1.map Lexeme.token

/-- The token of an operator. -/
def operatorToken (operator : String) : Token := ⟨.operator, operator⟩

/-- The token between arguments. -/
def commaToken : Token := ⟨.separator, ","⟩

/-- The token of the name of a function. -/
def nameToken (g : Function) : Token := ⟨.functionName, g.name⟩

mutual

/-- The **tokens of a formula**, as its text is meant. -/
def tokens : Formula Float → List Token
  | .leaf x => numberTokens x
  | .binary operator l r =>
      Token.openParen ::
        (tokens l ++ operatorToken operator :: tokens r ++ [Token.closeParen])
  | .call g args =>
      nameToken g :: Token.openParen ::
        ([commaToken].intercalate (tokensList args) ++ [Token.closeParen])

def tokensList : List (Formula Float) → List (List Token)
  | [] => []
  | f :: r => tokens f :: tokensList r

end

/-- The tokens of a list of formulas are those of each of them. -/
theorem tokensList_eq_map (fs : List (Formula Float)) : tokensList fs = fs.map tokens := by
  induction fs with
  | nil => rfl
  | cons f r ih => rw [tokensList, ih, List.map_cons]

/-- A formula is **well formed** when each operator has a meaning and each function takes as
many arguments as it is called with. -/
inductive WellFormed {α : Type} : Formula α → Prop
  | leaf (a : α) : WellFormed (.leaf a)
  | binary {operator : String} {l r : Formula α} : operator ∈ ["+", "-", "*", "/"] →
      WellFormed l → WellFormed r → WellFormed (.binary operator l r)
  | call {g : Function} {args : List (Formula α)} : g.takes args.length = true →
      (∀ f ∈ args, WellFormed f) → WellFormed (.call g args)

/-! ### Pieces -/

/-- A text **prints** some tokens when it is cut into them. -/
def Prints (cs : List Char) (ts : List Token) : Prop :=
  ∃ ls, Lexes cs ls ∧ ls.map Lexeme.token = ts

variable {cs ds : List Char} {ts us : List Token}

/-- Two texts print one after the other when the second stops a lexeme. -/
theorem Prints.append (h : Prints cs ts) (hds : Prints ds us) (hstop : Stops ds) :
    Prints (cs ++ ds) (ts ++ us) := by
  obtain ⟨ls, hls, rfl⟩ := h
  obtain ⟨ms, hms, rfl⟩ := hds
  refine ⟨ls ++ ms, ?_, List.map_append⟩
  rw [Lexes] at hms
  rw [Lexes, hls.scan_append hstop, hms]

/-- A space in front prints no token. -/
theorem Prints.space (h : Prints cs ts) : Prints (' ' :: cs) ts := by
  obtain ⟨ls, hls, hts⟩ := h
  exact ⟨ls, (scan_space rfl cs).trans hls, hts⟩

/-- An opening parenthesis in front prints its token. -/
theorem Prints.openParen (h : Prints cs ts) : Prints ('(' :: cs) (Token.openParen :: ts) := by
  obtain ⟨ls, hls, rfl⟩ := h
  refine ⟨⟨.openParen, ['(']⟩ :: ls, ?_, rfl⟩
  rw [Lexes] at hls
  rw [Lexes, scan_openParen, hls]

/-- A closing parenthesis in front prints its token. -/
theorem Prints.closeParen (h : Prints cs ts) : Prints (')' :: cs) (Token.closeParen :: ts) := by
  obtain ⟨ls, hls, rfl⟩ := h
  refine ⟨⟨.closeParen, [')']⟩ :: ls, ?_, rfl⟩
  rw [Lexes] at hls
  rw [Lexes, scan_closeParen, hls]

/-- A comma in front prints its token. -/
theorem Prints.comma (h : Prints cs ts) : Prints (',' :: cs) (commaToken :: ts) := by
  obtain ⟨ls, hls, rfl⟩ := h
  refine ⟨⟨.comma, [',']⟩ :: ls, ?_, rfl⟩
  rw [Lexes] at hls
  rw [Lexes, scan_comma, hls]

/-- A sign in front prints its token. -/
theorem Prints.sign (h : Prints cs ts) {c : Char} (hc : isSign c = true) :
    Prints (c :: cs) (operatorToken (String.ofList [c]) :: ts) := by
  obtain ⟨ls, hls, rfl⟩ := h
  refine ⟨⟨.operator, [c]⟩ :: ls, ?_, rfl⟩
  rw [Lexes] at hls
  rw [Lexes, scan_sign hc, hls]

/-- The operators with a meaning are the signs. -/
theorem exists_isSign {operator : String} (h : operator ∈ ["+", "-", "*", "/"]) :
    ∃ c, isSign c = true ∧ operator = String.ofList [c] := by
  simp only [List.mem_cons, List.not_mem_nil, or_false] at h
  obtain rfl | rfl | rfl | rfl := h
  · exact ⟨'+', rfl, rfl⟩
  · exact ⟨'-', rfl, rfl⟩
  · exact ⟨'*', rfl, rfl⟩
  · exact ⟨'/', rfl, rfl⟩

/-- An operator in front prints its token. -/
theorem Prints.operator (h : Prints cs ts) {operator : String}
    (hoperator : operator ∈ ["+", "-", "*", "/"]) :
    Prints (operator.toList ++ cs) (operatorToken operator :: ts) := by
  obtain ⟨c, hc, rfl⟩ := exists_isSign hoperator
  rw [String.toList_ofList]
  exact h.sign hc

/-- The empty text prints no tokens. -/
theorem prints_nil : Prints [] [] := ⟨[], scan_nil, rfl⟩

/-- The name of a function is cut off before a parenthesis. -/
theorem Prints.name (h : Prints cs ts) (g : Function) :
    Prints (g.name.toList ++ '(' :: cs) (nameToken g :: Token.openParen :: ts) := by
  have hnext : next? g.name.toList = some (⟨.name, g.name.toList⟩, []) := by
    cases g <;> rfl
  have hname : Prints g.name.toList [nameToken g] := by
    refine ⟨[⟨.name, g.name.toList⟩], ?_, ?_⟩
    · rw [Lexes, scan_of_next? hnext, scan_nil]
    · rw [List.map_singleton, Lexeme.token, String.ofList_toList]
      rfl
  exact hname.append h.openParen (fun c hc => by cases hc; exact ⟨rfl, by decide⟩)

/-- The text of a number prints its tokens. -/
theorem prints_number (x : Float) : Prints (numberText x).toList (numberTokens x) := by
  obtain ⟨ls, hls, -⟩ := (isNumberText_numberText x).lexes
  refine ⟨ls, hls, ?_⟩
  rw [numberTokens, hls]

/-- A number is printed **as one number token**, or with a token that is none. -/
theorem numberTokens_cases (x : Float) :
    (PlainChars (numberText x).toList ∧ numberTokens x = [⟨.number, numberText x⟩]) ∨
    ∃ l ∈ oddLexemes, l.token ∈ numberTokens x := by
  obtain ⟨ls, hls, ⟨hplain, rfl⟩ | ⟨l, hl, hodd⟩⟩ := (isNumberText_numberText x).lexes
  · refine Or.inl ⟨hplain, ?_⟩
    rw [numberTokens, hls, List.map_singleton, Lexeme.token, String.ofList_toList]
    rfl
  · refine Or.inr ⟨l, hodd, ?_⟩
    rw [numberTokens, hls]
    exact List.mem_map_of_mem hl

/-! ### The text of a formula -/

/-- A space stops a lexeme. -/
theorem stops_space {cs : List Char} : Stops (' ' :: cs) :=
  fun c hc => by cases hc; exact ⟨rfl, by decide⟩

/-- A closing parenthesis stops a lexeme. -/
theorem stops_closeParen {cs : List Char} : Stops (')' :: cs) :=
  fun c hc => by cases hc; exact ⟨rfl, by decide⟩

/-- A comma stops a lexeme. -/
theorem stops_comma {cs : List Char} : Stops (',' :: cs) :=
  fun c hc => by cases hc; exact ⟨rfl, by decide⟩

/-- Arguments with commas between them print one after another. -/
theorem prints_arguments {fs : List (Formula Float)}
    (h : ∀ f ∈ fs, Prints (f.render numberText).toList f.tokens) :
    Prints (", ".intercalate (fs.map (render numberText))).toList
      ([commaToken].intercalate (fs.map tokens)) := by
  induction fs with
  | nil => exact prints_nil
  | cons f r ih =>
      have hf := h f List.mem_cons_self
      have hr := ih (fun g hg => h g (List.mem_cons_of_mem f hg))
      cases r with
      | nil => simpa [String.intercalate_singleton] using hf
      | cons g s =>
          rw [List.map_cons, List.map_cons, List.map_cons, List.map_cons,
            String.intercalate_cons_cons, List.intercalate_cons_cons, ← List.map_cons,
            ← List.map_cons]
          have hrest := hf.append hr.space.comma stops_comma
          simpa using hrest

/-- **The text of a formula prints its tokens.** -/
theorem prints_render {f : Formula Float} (hf : f.WellFormed) :
    Prints (f.render numberText).toList f.tokens := by
  induction f using Formula.induction with
  | leaf x => exact prints_number x
  | binary operator l r ihl ihr =>
      obtain - | ⟨hoperator, hl, hr⟩ := hf
      have hright := (ihr hr).append prints_nil.closeParen stops_closeParen
      have hmiddle := (hright.space.operator hoperator).space
      have hleft := ((ihl hl).append hmiddle stops_space).openParen
      simpa [render, tokens] using hleft
  | call g args ih =>
      obtain - | - | ⟨-, hargs⟩ := hf
      have hlist := prints_arguments (fun f hf => ih f hf (hargs f hf))
      have hcall := (hlist.append prints_nil.closeParen stops_closeParen).name g
      rw [render, tokens, renderList_eq_map, tokensList_eq_map]
      simpa using hcall

/-! ### The ends of the text -/

/-- The text of a formula is tight: it is the text of a number, or it begins with a
parenthesis or a name and ends with a parenthesis. -/
theorem tight_render (f : Formula Float) : Tight (f.render numberText).toList := by
  have hopen : Firm '(' := by decide
  have hclose : Firm ')' := by decide
  cases f with
  | leaf x =>
      have hx := isNumberText_numberText x
      exact tight_of_forall hx.ne_nil hx.firm
  | binary operator l r =>
      refine ⟨⟨'(', ?_, hopen⟩, ⟨')', ?_, hclose⟩⟩
      · simp [render]
      · rw [render, String.toList_append]
        exact List.getLast?_concat
  | call g args =>
      refine ⟨?_, ⟨')', ?_, hclose⟩⟩
      · cases g
        all_goals simp [render, Function.name]; decide
      · rw [render, String.toList_append]
        exact List.getLast?_concat

/-- A text has some tokens when it prints them without the white space around it and without
the sign of equality. -/
theorem tokenize_eq_ok_iff {text : String} :
    tokenize text = .ok ts ↔ Prints (formulaChars text).2 ts := by
  rw [tokenize]
  obtain ⟨marked, cs⟩ := formulaChars text
  simp only [Prints, Lexes]
  split
  · rename_i lexemes hscan
    rw [hscan]
    simp
  · rename_i lexemes c rest hscan
    rw [hscan]
    simp

/-- **The text of a formula is cut into the tokens of the formula.** -/
theorem tokenize_text {f : Formula Float} (hf : f.WellFormed) : tokenize f.text = .ok f.tokens := by
  rw [tokenize_eq_ok_iff, text, (tight_render f).formulaChars]
  exact prints_render hf

end Formula

end SheetFormula
