import SheetFormula.Proofs.Failures
import SheetFormula.Proofs.NumberText
import SheetFormula.Proofs.SameNumber

/-!
# One Vocabulary of Lexer and Reader

The lexer gives each token a kind. The reader does not always ask for it: it tells
parentheses, signs and commas by their texts alone, it reads the text of a number by the rules
for all decimals, and the text of a reference by a form of its own. On the tokens of a text
the two agree. Every token has a text of the class of its terminal, and from the class it
follows what the reader makes of the text.

Tokens that come from elsewhere may well have the text of one kind and another kind.

## Main results

* `Lexeme.matches_of_mem_scan`: every lexeme has a text of the class of its terminal.
* `Token.Spelled.kind_eq_iff`: marks are told by their texts as well as by their kinds.
* `Segment.cut?_eq_cutBy?`: **cutting by texts is cutting by kinds**.
* `Computation.vocabulary_of_tokenize`: **lexer and reader share one vocabulary**.
-/

namespace SheetFormula

open Text (isDigit)

/-! ### The classes of terminals -/

namespace Terminal

open Lexeme

/-- The **class of a terminal**: its texts. A number has a digit, and behind a point it has
one. A name does not begin like a reference. -/
def Matches : Terminal → List Char → Prop
  | .cellReference, cs => ∃ c ds, cs = c :: ds ∧ isCapital c = true ∧ AreDigits ds
  | .name, cs => ∃ c r, cs = c :: r ∧ isNameStart c = true ∧ (∀ d ∈ r, isNamePart d = true) ∧
      (isCapital c = true → ∀ d ∈ r.head?, isDigit d = false)
  | .number, cs => ∃ ds fs, cs = ds ++ pointed fs ∧ (∀ c ∈ ds, isDigit c = true) ∧
      (∀ c ∈ fs, isDigit c = true) ∧ ds ++ fs ≠ []
  | .openParen, cs => cs = ['(']
  | .closeParen, cs => cs = [')']
  | .operator, cs => ∃ c, cs = [c] ∧ isSign c = true
  | .comma, cs => cs = [',']

end Terminal

namespace Lexeme

/-- A fraction that is read is a point with digits, or nothing. -/
theorem exists_fraction (cs : List Char) :
    ∃ fs, (fraction cs).1 = pointed fs ∧ ∀ c ∈ fs, isDigit c = true := by
  unfold fraction
  split
  · rename_i d r
    split
    · rename_i hd
      refine ⟨d :: r.takeWhile isDigit, rfl, fun c hc => ?_⟩
      obtain rfl | hc := List.mem_cons.mp hc
      · exact hd
      · exact List.mem_takeWhile_imp hc
    · exact ⟨[], rfl, fun c hc => by cases hc⟩
  · exact ⟨[], rfl, fun c hc => by cases hc⟩

/-- **A lexeme has a text of the class of its terminal.** -/
theorem matches_of_next? {cs rest : List Char} {l : Lexeme} (h : next? cs = some (l, rest)) :
    l.terminal.Matches l.chars := by
  cases cs with
  | nil => cases h
  | cons c r =>
      simp only [next?] at h
      split at h
      · rename_i hreference
        obtain ⟨hc, hr⟩ := Bool.and_eq_true_iff.mp hreference
        cases h
        refine ⟨c, _, rfl, hc, ?_, fun d hd => List.mem_takeWhile_imp hd⟩
        cases r with
        | nil => cases hr
        | cons d r =>
            have hd : isDigit d = true := hr
            rw [List.takeWhile_cons_of_pos hd]
            exact List.cons_ne_nil _ _
      rename_i hreference
      split at h
      · rename_i hc
        cases h
        refine ⟨c, _, rfl, hc, fun d hd => List.mem_takeWhile_imp hd, fun hcapital d hd => ?_⟩
        cases r with
        | nil => cases hd
        | cons e r =>
            cases he : isNamePart e with
            | false =>
                rw [List.takeWhile_cons_of_neg (by rw [he]; decide)] at hd
                cases hd
            | true =>
                rw [List.takeWhile_cons_of_pos he] at hd
                obtain rfl : e = d := Option.some.inj hd
                rw [hcapital] at hreference
                exact Bool.eq_false_iff.mpr hreference
      split at h
      · rename_i hc
        cases h
        obtain ⟨fs, hfs, hdigits⟩ := exists_fraction (r.dropWhile isDigit)
        refine ⟨c :: r.takeWhile isDigit, fs, by rw [hfs], fun d hd => ?_, hdigits,
          List.cons_ne_nil _ _⟩
        obtain rfl | hd := List.mem_cons.mp hd
        · exact hc
        · exact List.mem_takeWhile_imp hd
      split at h
      · rename_i hc
        cases h
        exact congrArg (fun c => [c]) hc
      split at h
      · rename_i hc
        cases h
        exact congrArg (fun c => [c]) hc
      split at h
      · rename_i hc
        cases h
        exact congrArg (fun c => [c]) hc
      split at h
      · rename_i hc
        cases h
        exact ⟨c, rfl, hc⟩
      obtain ⟨fs, hfs, hdigits⟩ := exists_fraction (c :: r)
      split at h
      · cases h
      · rename_i hne hfraction
        cases h
        rw [hfraction] at hfs
        refine ⟨[], fs, hfs, (fun d hd => by cases hd), hdigits, ?_⟩
        rintro rfl
        exact hne hfs

/-- Every lexeme of a text has a text of the class of its terminal. -/
theorem matches_of_mem_scan {cs : List Char} {l : Lexeme} (h : l ∈ (scan cs).1) :
    l.terminal.Matches l.chars := by
  induction cs using scan.induct with
  | case1 => rw [scan_nil] at h; cases h
  | case2 c r hc ih => exact ih (by rwa [scan_space hc] at h)
  | case3 c r hc hnone =>
      rw [scan_stuck hc hnone] at h
      cases h
  | case4 c r hc l' rest hnext ls stuck hscan ih =>
      rw [scan_of_next? hnext] at h
      obtain rfl | h := List.mem_cons.mp h
      · exact matches_of_next? hnext
      · exact ih h

end Lexeme

/-! ### Spelled tokens -/

namespace Token

open Lexeme

/-- A token is **spelled** when its text is of the class of a terminal of its kind. -/
def Spelled (t : Token) : Prop := ∃ m : Terminal, m.kind = t.kind ∧ m.Matches t.text.toList

end Token

/-- **The tokens of a text are spelled.** -/
theorem spelled_of_tokenize {text : String} {ts : List Token} (h : tokenize text = .ok ts) :
    ∀ t ∈ ts, t.Spelled := by
  simp only [tokenize] at h
  split at h
  · rename_i lexemes hscan
    cases h
    intro t ht
    obtain ⟨l, hl, rfl⟩ := List.mem_map.mp ht
    refine ⟨l.terminal, rfl, ?_⟩
    rw [Lexeme.token, String.toList_ofList]
    exact Lexeme.matches_of_mem_scan (by rw [hscan]; exact hl)
  · cases h

namespace Token

open Lexeme

/-- The kind of the tokens whose text is a single character that is no word: the **marks**. -/
def Kind.ofMark? (c : Char) : Option Kind :=
  if c = '(' ∨ c = ')' then some .parenthesis
  else if isSign c then some .operator
  else if c = ',' then some .separator
  else none

/-- Whether the tokens of a kind are marks. The others are words. -/
def Kind.isMark : Kind → Bool
  | .parenthesis | .operator | .separator => true
  | .number | .cellReference | .functionName => false

/-- A sign is the mark of an operator. -/
theorem Kind.ofMark?_of_isSign {c : Char} (h : isSign c = true) : ofMark? c = some .operator := by
  simp only [isSign, Bool.or_eq_true, beq_iff_eq] at h
  obtain ((rfl | rfl) | rfl) | rfl := h <;> rfl

/-- The marks of parentheses are the two of them. -/
theorem Kind.ofMark?_eq_parenthesis_iff {c : Char} :
    ofMark? c = some .parenthesis ↔ c = '(' ∨ c = ')' := by
  rw [ofMark?]
  split_ifs with hparen <;> simp [hparen]

/-- The marks of operators are the four signs. -/
theorem Kind.ofMark?_eq_operator_iff {c : Char} :
    ofMark? c = some .operator ↔ c = '+' ∨ c = '-' ∨ c = '*' ∨ c = '/' := by
  constructor
  · intro h
    rw [ofMark?] at h
    split at h
    · cases h
    split at h
    · rename_i hsign
      simpa only [isSign, Bool.or_eq_true, beq_iff_eq, or_assoc] using hsign
    split at h <;> cases h
  · rintro (rfl | rfl | rfl | rfl) <;> rfl

/-- The mark of a separator is the comma. -/
theorem Kind.ofMark?_eq_separator_iff {c : Char} : ofMark? c = some .separator ↔ c = ',' := by
  constructor
  · intro h
    rw [ofMark?] at h
    split at h
    · cases h
    split at h
    · cases h
    split at h
    · assumption
    · cases h
  · rintro rfl
    rfl

/-- A mark is no part of a name. -/
theorem Kind.isNamePart_of_ofMark? {c : Char} {k : Kind} (h : ofMark? c = some k) :
    isNamePart c = false := by
  rw [ofMark?] at h
  split_ifs at h with hparen hsign hcomma
  · obtain rfl | rfl := hparen <;> rfl
  · simp only [isSign, Bool.or_eq_true, beq_iff_eq] at hsign
    obtain ((rfl | rfl) | rfl) | rfl := hsign <;> rfl
  · obtain rfl := hcomma
    rfl

namespace Spelled

variable {t : Token}

/-- A word of a single character is part of a name. -/
theorem isNamePart_of_word (h : t.Spelled) (hkind : t.kind.isMark = false) {c : Char}
    (hc : t.text.toList = [c]) : isNamePart c = true := by
  obtain ⟨m, hm, hmatch⟩ := h
  rw [hc] at hmatch
  rw [← hm] at hkind
  cases m with
  | cellReference =>
      obtain ⟨d, ds, heq, -, hds⟩ := hmatch
      exact absurd (List.cons.inj heq).2.symm hds.ne_nil
  | name =>
      obtain ⟨d, r, heq, hd, -⟩ := hmatch
      obtain ⟨rfl, -⟩ := List.cons.inj heq
      exact isNamePart_of_isNameStart hd
  | number =>
      obtain ⟨ds, fs, heq, hds, -, hne⟩ := hmatch
      cases ds with
      | cons d r =>
          obtain ⟨rfl, -⟩ := List.cons.inj heq
          exact isNamePart_of_isDigit (hds c List.mem_cons_self)
      | nil =>
          cases fs with
          | nil => exact absurd rfl hne
          | cons f r => cases heq
  | openParen | closeParen | operator | comma => cases hkind

/-- A token that is a mark has a mark of its kind for its text. -/
theorem exists_mark (h : t.Spelled) (hkind : t.kind.isMark = true) :
    ∃ c, Kind.ofMark? c = some t.kind ∧ t.text.toList = [c] := by
  obtain ⟨m, hm, hmatch⟩ := h
  rw [← hm] at hkind ⊢
  cases m with
  | cellReference | name | number => cases hkind
  | openParen => exact ⟨'(', rfl, hmatch⟩
  | closeParen => exact ⟨')', rfl, hmatch⟩
  | comma => exact ⟨',', rfl, hmatch⟩
  | operator =>
      obtain ⟨c, hc, hsign⟩ := hmatch
      exact ⟨c, Kind.ofMark?_of_isSign hsign, hc⟩

/-- **Marks are told by their texts**: a token is a mark of a kind exactly when its text is. -/
theorem kind_eq_iff (h : t.Spelled) {k : Kind} (hk : k.isMark = true) :
    t.kind = k ↔ ∃ c, Kind.ofMark? c = some k ∧ t.text.toList = [c] := by
  constructor
  · rintro rfl
    exact h.exists_mark hk
  · rintro ⟨c, hc, htext⟩
    cases hkind : t.kind.isMark with
    | false =>
        have hpart := h.isNamePart_of_word hkind htext
        rw [Kind.isNamePart_of_ofMark? hc] at hpart
        cases hpart
    | true =>
        obtain ⟨d, hd, htext'⟩ := h.exists_mark hkind
        obtain rfl : c = d := (List.cons.inj (htext.symm.trans htext')).1
        exact Option.some.inj (hd.symm.trans hc)

/-- A spelled token is a parenthesis exactly when its text is one. -/
theorem parenthesis_iff (h : t.Spelled) :
    t.kind = .parenthesis ↔ t.text = "(" ∨ t.text = ")" := by
  rw [h.kind_eq_iff rfl]
  simp [Kind.ofMark?_eq_parenthesis_iff, ← String.toList_inj]

/-- A spelled token is an operator exactly when its text is one of the four signs. -/
theorem operator_iff (h : t.Spelled) :
    t.kind = .operator ↔ t.text = "+" ∨ t.text = "-" ∨ t.text = "*" ∨ t.text = "/" := by
  rw [h.kind_eq_iff rfl]
  simp [Kind.ofMark?_eq_operator_iff, ← String.toList_inj]

/-- A spelled token is a separator exactly when its text is the comma. -/
theorem separator_iff (h : t.Spelled) : t.kind = .separator ↔ t.text = "," := by
  rw [h.kind_eq_iff rfl]
  simp [Kind.ofMark?_eq_separator_iff, ← String.toList_inj]

/-- **The text of a number is a number** that is not below zero. -/
theorem read?_of_number (h : t.Spelled) (hkind : t.kind = .number) :
    ∃ x, Decimal.read? t.text = some x ∧ Double.Unsigned (Double.parts x) := by
  obtain ⟨m, hm, hmatch⟩ := h
  rw [hkind] at hm
  cases m with
  | number =>
      obtain ⟨ds, fs, htext, hds, hfs, hne⟩ := hmatch
      exact ⟨_, Decimal.read?_of_digits hds hfs hne htext, Decimal.unsigned_nearestDecimal _ _⟩
  | _ => cases hm

/-- **The text of a reference** has the form that addresses have. -/
theorem parts?_of_reference (h : t.Spelled) (hkind : t.kind = .cellReference) :
    ∃ letter ds, Address.parts? t.text = some (letter, ds) := by
  obtain ⟨m, hm, hmatch⟩ := h
  rw [hkind] at hm
  cases m with
  | cellReference =>
      obtain ⟨c, ds, htext, hc, hds⟩ := hmatch
      refine ⟨c, ds, Address.parts?_eq_some_iff.mpr ⟨htext, hc, hds.ne_nil, ?_⟩⟩
      exact List.all_eq_true.mpr hds.isDigit
  | _ => cases hm

end Spelled

end Token

/-! ### Cutting by kinds -/

namespace Segment

/-- What a token is to the one who cuts: whether it opens or closes a group, or separates. -/
structure Test where
  opens : Token → Bool
  closes : Token → Bool
  separates : Token → Bool

/-- The depth of parentheses after a token, none when it closes one that was not open. -/
def depthBy (test : Test) (depth : Nat) (t : Token) : Option Nat :=
  if test.opens t then some (depth + 1)
  else if test.closes t then (if depth = 0 then none else some (depth - 1))
  else some depth

/-- The segments of tokens when a test tells what each token is. -/
def cutBy? (test : Test) : Nat → List Token → Option (List Segment)
  | depth, [] => if depth = 0 then some [] else none
  | depth, t :: r =>
      match depthBy test depth t with
      | none => none
      | some inner =>
          if inner = 0 ∧ test.separates t then (cutBy? test 0 r).map (⟨[], some t⟩ :: ·)
          else (cutBy? test inner r).map (prepend t)

/-- The **test by kinds**: a parenthesis has to be a token of this kind, and what separates is
told by a test of its own. -/
def kindTest (separates : Token → Bool) : Test where
  opens t := t == Token.openParen
  closes t := t == Token.closeParen
  separates := separates

/-- **Cutting by texts is cutting by any test** that finds the same parentheses and
separators among the tokens. -/
theorem cutFrom?_eq_cutBy? {separators : List Char} {test : Test} {ts : List Token}
    (hopens : ∀ t ∈ ts, t.isChar '(' = test.opens t)
    (hcloses : ∀ t ∈ ts, t.isChar ')' = test.closes t)
    (hseparates : ∀ t ∈ ts, separates separators t = test.separates t) (depth : Nat) :
    cutFrom? separators depth ts = cutBy? test depth ts := by
  induction ts generalizing depth with
  | nil => rfl
  | cons t r ih =>
      have hr := ih (fun u hu => hopens u (List.mem_cons_of_mem t hu))
        (fun u hu => hcloses u (List.mem_cons_of_mem t hu))
        (fun u hu => hseparates u (List.mem_cons_of_mem t hu))
      have hdepth : depthAfter depth t = depthBy test depth t := by
        rw [depthAfter, depthBy, hopens t List.mem_cons_self, hcloses t List.mem_cons_self]
      rw [cutFrom?, cutBy?, hdepth]
      cases depthBy test depth t with
      | none => rfl
      | some d =>
          dsimp only
          rw [hr 0, hr d, hseparates t List.mem_cons_self]

end Segment

namespace Token.Spelled

variable {t : Token}

/-- A spelled token with the text of the opening parenthesis is its token. -/
theorem isChar_open (h : t.Spelled) : t.isChar '(' = (t == openParen) := by
  rw [Bool.eq_iff_iff, Segment.isChar_iff, beq_iff_eq]
  constructor
  · intro htext
    have hparen : t.text = "(" := String.toList_inj.mp htext
    rw [openParen, ← h.parenthesis_iff.mpr (Or.inl hparen), ← hparen]
  · rintro rfl
    rfl

/-- A spelled token with the text of the closing parenthesis is its token. -/
theorem isChar_close (h : t.Spelled) : t.isChar ')' = (t == closeParen) := by
  rw [Bool.eq_iff_iff, Segment.isChar_iff, beq_iff_eq]
  constructor
  · intro htext
    have hparen : t.text = ")" := String.toList_inj.mp htext
    rw [closeParen, ← h.parenthesis_iff.mpr (Or.inr hparen), ← hparen]
  · rintro rfl
    rfl

end Token.Spelled

/-- **Spelled tokens are cut by their kinds** when the texts of the separators are those of
the tokens that the test finds. -/
theorem Segment.cut?_eq_cutBy? {separators : String} {separates : Token → Bool} {ts : List Token}
    (hts : ∀ t ∈ ts, t.Spelled)
    (hseparates : ∀ t, t.Spelled → Segment.separates separators.toList t = separates t) :
    cut? separators ts = cutBy? (kindTest separates) 0 ts :=
  cutFrom?_eq_cutBy? (fun t ht => (hts t ht).isChar_open) (fun t ht => (hts t ht).isChar_close)
    (fun t ht => hseparates t (hts t ht)) 0

/-! ### Spelling faults -/

/-- A failure **blames the spelling** of an operand: a number that is none, or a reference that
names no address. -/
def BlamesSpelling (e : Failure) : Prop :=
  (∃ t, e = .fault (.invalidNumber t)) ∨ ∃ ref, e = .fault (.invalidReference ref .malformed)

/-- A structural failure blames no spelling. -/
theorem Reading.Structural.not_blamesSpelling {e : Failure} (h : Structural e) :
    ¬ BlamesSpelling e := by
  obtain ⟨f, rfl, hf⟩ := h
  rintro (⟨t, heq⟩ | ⟨ref, heq⟩)
  · obtain rfl := Failure.fault.inj heq
    cases hf
  · obtain rfl := Failure.fault.inj heq
    cases hf

/-- When a letter and digits give no address, their spelling is not blamed. -/
theorem Address.not_blamesSpelling_of_ofRef {ref : String} {letter : Char} {ds : List Char}
    (hparts : parts? ref = some (letter, ds)) {e : Failure} (h : ofRef ref = .error e) :
    ¬ BlamesSpelling e := by
  simp only [ofRef, hparts] at h
  split_ifs at h
  · cases h
    simp [BlamesSpelling]
  · cases h

/-- What a grid says of an address does not blame the spelling. -/
theorem Grid.not_blamesSpelling_of_permit {g : Grid} {ref : String} {a : Address} {e : Failure}
    (h : g.permit ref a = .error e) : ¬ BlamesSpelling e := by
  rw [permit] at h
  split_ifs at h <;> cases h <;> simp [BlamesSpelling]

/-- A value that a cell does not give is not blamed on the spelling of its reference. -/
theorem not_blamesSpelling_of_cellValue {ref : String} {raw : Json} {e : Failure}
    (h : cellValue ref raw = .error e) : ¬ BlamesSpelling e := by
  obtain ⟨s, x, -, -, -, heq⟩ | ⟨shown, heq⟩ | ⟨-, heq⟩ := cellValue_cases ref raw
  all_goals
    rw [heq] at h
    cases h
  · simp [BlamesSpelling]
  · simp [BlamesSpelling]

/-- A reference that names an address fails for another reason than its spelling. -/
theorem not_blamesSpelling_of_resolve {grid : Option Grid} {ref : String} {letter : Char}
    {ds : List Char} (hparts : Address.parts? ref = some (letter, ds)) {e : Failure}
    (h : resolve grid ref = .error e) : ¬ BlamesSpelling e := by
  cases grid with
  | none =>
      cases h
      simp [BlamesSpelling]
  | some g =>
      cases haddress : Address.ofRef ref with
      | error e' =>
          rw [resolve, haddress] at h
          cases h
          exact Address.not_blamesSpelling_of_ofRef hparts haddress
      | ok a =>
          rw [resolve_some_of_ofRef haddress] at h
          obtain h | ⟨-, -, h⟩ := Failure.bind_eq_error_iff.mp h
          · exact Grid.not_blamesSpelling_of_permit h
          · exact not_blamesSpelling_of_cellValue h

namespace Computation

/-- A spelled token fails as an operand for another reason than its spelling. -/
theorem not_blamesSpelling_of_single {grid : Option Grid} {t : Token} (ht : t.Spelled)
    {e : Failure} (h : (Reading.single (resolve grid) t).outcome = .error e) :
    ¬ BlamesSpelling e := by
  rw [Reading.single] at h
  cases hkind : t.kind with
  | number =>
      obtain ⟨x, hx, -⟩ := ht.read?_of_number hkind
      rw [hkind] at h
      simp only [Reading.numberOf, hx] at h
      cases h
  | cellReference =>
      obtain ⟨letter, ds, hparts⟩ := ht.parts?_of_reference hkind
      rw [hkind] at h
      obtain h | ⟨x, -, h⟩ := Trace.outcome_bind_eq_error_iff.mp h
      · obtain h | ⟨x, -, h⟩ := Trace.outcome_bind_eq_error_iff.mp h
        · exact not_blamesSpelling_of_resolve hparts h
        · cases h
      · cases h
  | functionName | parenthesis | operator | separator =>
      rw [hkind] at h
      cases h
      simp [BlamesSpelling]

/-- **No reading of spelled tokens blames their spelling.** -/
theorem not_blamesSpelling_of_parse {grid : Option Grid} {ts : List Token}
    (hts : ∀ t ∈ ts, t.Spelled) {e : Failure} (h : (parse grid ts).outcome = .error e) :
    ¬ BlamesSpelling e := by
  rw [outcome_parse] at h
  obtain hform | ⟨t, ht, hsingle⟩ := Reading.rooted_expression ts e h
  · exact hform.not_blamesSpelling
  · exact not_blamesSpelling_of_single (hts t ht) hsingle

/-- **Lexer and reader share one vocabulary.** On the tokens of a text, each number token is
read as a number that is not below zero, each reference names an address, and the texts of
parentheses, signs and commas are those of their kinds. So cutting, which sees texts only,
cuts any part of the tokens where their kinds tell it to; and no failure of the reader blames
the spelling of a number or of a reference. -/
theorem vocabulary_of_tokenize {text : String} {ts : List Token} (h : tokenize text = .ok ts) :
    (∀ t ∈ ts, t.kind = .number →
      ∃ x, Decimal.read? t.text = some x ∧ x.isNaN = false ∧ ¬ x < 0) ∧
    (∀ t ∈ ts, t.kind = .cellReference → ∀ ref,
      Address.ofRef t.text ≠ .error (.fault (.invalidReference ref .malformed))) ∧
    (∀ t ∈ ts, (t.kind = .parenthesis ↔ t.text = "(" ∨ t.text = ")") ∧
      (t.kind = .operator ↔ t.text = "+" ∨ t.text = "-" ∨ t.text = "*" ∨ t.text = "/") ∧
      (t.kind = .separator ↔ t.text = ",")) ∧
    (∀ run ⊆ ts,
      Segment.cut? "+-" run = Segment.cutBy? (Segment.kindTest fun t =>
        t.kind = .operator ∧ (t.text = "+" ∨ t.text = "-")) 0 run ∧
      Segment.cut? "*/" run = Segment.cutBy? (Segment.kindTest fun t =>
        t.kind = .operator ∧ (t.text = "*" ∨ t.text = "/")) 0 run ∧
      Segment.cut? "+-*/" run =
        Segment.cutBy? (Segment.kindTest fun t => t.kind = .operator) 0 run ∧
      Segment.cut? "," run =
        Segment.cutBy? (Segment.kindTest fun t => t.kind = .separator) 0 run) ∧
    (∀ grid e, (parse grid ts).outcome = .error e →
      (∀ t, e ≠ .fault (.invalidNumber t)) ∧
      ∀ ref, e ≠ .fault (.invalidReference ref .malformed)) := by
  have hts := spelled_of_tokenize h
  refine ⟨fun t ht hkind => ?_, fun t ht hkind ref herr => ?_, fun t ht => ?_, fun run hrun => ?_,
    fun grid e he => ?_⟩
  · obtain ⟨x, hx, hunsigned⟩ := (hts t ht).read?_of_number hkind
    exact ⟨x, hx, hunsigned.isNaN_eq_false, hunsigned.not_lt_zero⟩
  · obtain ⟨letter, ds, hparts⟩ := (hts t ht).parts?_of_reference hkind
    exact Address.not_blamesSpelling_of_ofRef hparts herr (Or.inr ⟨ref, rfl⟩)
  · exact ⟨(hts t ht).parenthesis_iff, (hts t ht).operator_iff, (hts t ht).separator_iff⟩
  · have hspelled : ∀ t ∈ run, t.Spelled := fun t ht => hts t (hrun ht)
    refine ⟨Segment.cut?_eq_cutBy? hspelled ?_, Segment.cut?_eq_cutBy? hspelled ?_,
      Segment.cut?_eq_cutBy? hspelled ?_, Segment.cut?_eq_cutBy? hspelled ?_⟩
    · intro t ht
      rw [Bool.eq_iff_iff, Token.separates_adds_iff, decide_eq_true_iff, ht.operator_iff,
        Token.Adds]
      tauto
    · intro t ht
      rw [Bool.eq_iff_iff, Token.separates_multiplies_iff, decide_eq_true_iff, ht.operator_iff,
        Token.Multiplies]
      tauto
    · intro t ht
      rw [Bool.eq_iff_iff, decide_eq_true_iff, ht.operator_iff]
      simp [Segment.separates_iff, ← String.toList_inj]
    · intro t ht
      rw [Bool.eq_iff_iff, Token.separates_comma_iff, decide_eq_true_iff, ht.separator_iff,
        Token.IsComma]
  · have hspelling := not_blamesSpelling_of_parse hts he
    exact ⟨fun t ht => hspelling (Or.inl ⟨t, ht⟩), fun ref href => hspelling (Or.inr ⟨ref, href⟩)⟩

/-- The text `=A1B-.5` is cut at its first letters that make a reference, and its number begins
with a point. -/
theorem vocabulary_of_tokenize_point : ∃ ts : List Token,
    ts = [⟨.cellReference, "A1"⟩, ⟨.functionName, "B"⟩, ⟨.operator, "-"⟩, ⟨.number, ".5"⟩] ∧
    tokenize "=A1B-.5" = .ok ts ∧
    (∃ x, Decimal.read? ".5" = some x ∧ x.isNaN = false ∧ ¬ x < 0) ∧
    (∀ ref, Address.ofRef "A1" ≠ .error (.fault (.invalidReference ref .malformed))) ∧
    Segment.cut? "+-" ts = Segment.cutBy? (Segment.kindTest fun t =>
      t.kind = .operator ∧ (t.text = "+" ∨ t.text = "-")) 0 ts ∧
    ∀ grid e, (parse grid ts).outcome = .error e →
      (∀ t, e ≠ .fault (.invalidNumber t)) ∧
      ∀ ref, e ≠ .fault (.invalidReference ref .malformed) := by
  have hscan : Lexeme.scan ['A', '1', 'B', '-', '.', '5'] =
      ([⟨.cellReference, ['A', '1']⟩, ⟨.name, ['B']⟩, ⟨.operator, ['-']⟩, ⟨.number, ['.', '5']⟩],
        []) := by
    have hreference : Lexeme.next? ['A', '1', 'B', '-', '.', '5'] =
        some (⟨.cellReference, ['A', '1']⟩, ['B', '-', '.', '5']) := rfl
    have hname : Lexeme.next? ['B', '-', '.', '5'] =
        some (⟨.name, ['B']⟩, ['-', '.', '5']) := rfl
    have hnumber : Lexeme.next? ['.', '5'] = some (⟨.number, ['.', '5']⟩, []) := rfl
    rw [Lexeme.scan_of_next? hreference, Lexeme.scan_of_next? hname,
      Lexeme.scan_sign (c := '-') rfl, Lexeme.scan_of_next? hnumber, Lexeme.scan_nil]
  have htokens : tokenize "=A1B-.5" = .ok [⟨.cellReference, "A1"⟩, ⟨.functionName, "B"⟩,
      ⟨.operator, "-"⟩, ⟨.number, ".5"⟩] := by
    have hchars : formulaChars "=A1B-.5" = (true, ['A', '1', 'B', '-', '.', '5']) := rfl
    rw [tokenize, hchars]
    simp only [hscan]
    rfl
  obtain ⟨hnumber, hreference, -, hcut, hparse⟩ := vocabulary_of_tokenize htokens
  exact ⟨_, rfl, htokens, hnumber ⟨.number, ".5"⟩ (by simp) rfl,
    hreference ⟨.cellReference, "A1"⟩ (by simp) rfl, (hcut _ (List.Subset.refl _)).1, hparse⟩

end Computation

end SheetFormula
