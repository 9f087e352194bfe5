import SheetFormula.Proofs.Printing
import SheetFormula.Proofs.Vocabulary

/-!
# Which Texts Are Cut Into Tokens

A lexeme begins at every character of the alphabet, apart from a point with no digit behind
it and from white space, which is skipped. Whatever a lexeme takes is of the alphabet as well,
and has a digit behind each point. So all that the reader goes over fits before what follows
it, and where the reader is stuck a character does not; it does not matter how the text is cut
on the way.

What is cut off is never lost: the lexemes of a text are the text without its white space.

## Main results

* `Lexeme.exists_unfit`: the reader is stuck at a character that does not fit.
* `Lexeme.scan_complete_iff`: **nothing is left of a text exactly when all of it fits**.
* `Lexeme.flatMap_chars_scan`: the lexemes are the text without its white space.
* `Terminal.Matches.firm`: no lexeme holds white space.
* `tokenize_readable`: **which texts are cut into tokens**, and what tokens they are cut into.
-/

namespace SheetFormula

namespace Lexeme

open Text (isDigit)

/-! ### The alphabet -/

/-- The **alphabet** of formulas: the ASCII letters and digits, the marks, the point, the
underscore, and the white space that may stand between lexemes. -/
def InAlphabet (c : Char) : Prop :=
  c.isAlphanum = true ∨
    c ∈ ['_', '(', ')', '+', '-', '*', '/', ',', '.', ' ', '\t', '\x0c', '\r', '\n']

/-- Some characters **fit** before a text when they are of the alphabet and a digit stands
right behind each point. -/
def Fits : List Char → List Char → Prop
  | [], _ => True
  | c :: r, rest =>
      (InAlphabet c ∧ (c = '.' → ∃ d ∈ (r ++ rest).head?, d.isDigit = true)) ∧ Fits r rest

/-- A text is **readable** when all of its characters are of the alphabet and a digit stands
right behind each point. -/
structure Readable (cs : List Char) : Prop where
  inAlphabet : ∀ c ∈ cs, InAlphabet c
  pointed : ∀ us vs, cs = us ++ '.' :: vs → ∃ d ∈ vs.head?, d.isDigit = true

variable {cs rest : List Char} {c : Char}

/-- The capitals are the ASCII letters of upper case. -/
theorem isCapital_eq (c : Char) : isCapital c = c.isUpper := by
  simp [isCapital, Char.isUpper, Char.le_def]

/-- The characters of a name are the ASCII letters and digits, and the underscore. -/
theorem isNamePart_eq (c : Char) : isNamePart c = (c.isAlphanum || c == '_') := by
  have hlower : (decide ('a' ≤ c) && decide (c ≤ 'z')) = c.isLower := rfl
  have hdigit : isDigit c = c.isDigit := rfl
  rw [isNamePart, isNameStart, isCapital_eq, hlower, hdigit, Char.isAlphanum, Char.isAlpha]
  ac_rfl

/-- A character of the alphabet is part of a name, a mark, the point or white space. -/
theorem inAlphabet_iff : InAlphabet c ↔
    isNamePart c = true ∨ (c = '(' ∨ c = ')' ∨ c = ',' ∨ isSign c = true) ∨ c = '.' ∨
      isSpace c = true := by
  simp only [InAlphabet, isNamePart_eq, isSign, isSpace, List.mem_cons, List.not_mem_nil,
    Bool.or_eq_true, beq_iff_eq, or_false]
  tauto

/-- A character of the alphabet other than a point fits before any text. -/
theorem fits_cons_of_ne (hc : InAlphabet c) (hne : c ≠ '.') {r : List Char} :
    Fits (c :: r) rest ↔ Fits r rest := by
  simp [Fits, hc, hne]

/-- Two texts fit when the first one does before the second. -/
theorem fits_append_iff (us vs : List Char) :
    Fits (us ++ vs) rest ↔ Fits us (vs ++ rest) ∧ Fits vs rest := by
  induction us with
  | nil => simp [Fits]
  | cons c r ih =>
      rw [List.cons_append, Fits, Fits, ih, List.append_assoc, ← and_assoc]

/-- A text fits when its first character does before the others, and these do. -/
theorem fits_cons_iff {r : List Char} : Fits (c :: r) rest ↔ Fits [c] (r ++ rest) ∧ Fits r rest :=
  fits_append_iff [c] r

/-- A text is readable when it fits before the end. -/
theorem readable_iff_fits : Readable cs ↔ Fits cs [] := by
  induction cs with
  | nil => exact ⟨fun _ => trivial, fun _ => ⟨by simp, by simp⟩⟩
  | cons c r ih =>
      rw [Fits, ← ih, List.append_nil]
      constructor
      · rintro ⟨halphabet, hpointed⟩
        refine ⟨⟨halphabet c List.mem_cons_self, ?_⟩, ?_, ?_⟩
        · rintro rfl
          exact hpointed [] r rfl
        · exact fun d hd => halphabet d (List.mem_cons_of_mem c hd)
        · rintro us vs rfl
          exact hpointed (c :: us) vs rfl
      · rintro ⟨⟨hc, hpoint⟩, halphabet, hpointed⟩
        refine ⟨List.forall_mem_cons.mpr ⟨hc, halphabet⟩, fun us vs hsplit => ?_⟩
        obtain ⟨-, hcons⟩ | ⟨us', -, hr⟩ := List.cons_eq_append_iff.mp hsplit
        · obtain ⟨hdot, rfl⟩ := List.cons.inj hcons
          exact hpoint hdot.symm
        · exact hpointed us' vs hr

/-! ### Lexemes fit -/

/-- No character of a name is a point. -/
theorem ne_point_of_isNamePart (h : isNamePart c = true) : c ≠ '.' := by
  rintro rfl
  cases h

/-- A name fits before any text. -/
theorem fits_of_isNamePart (h : ∀ c ∈ cs, isNamePart c = true) : Fits cs rest := by
  induction cs with
  | nil => trivial
  | cons c r ih =>
      have hc := h c List.mem_cons_self
      rw [fits_cons_of_ne (inAlphabet_iff.mpr (.inl hc)) (ne_point_of_isNamePart hc)]
      exact ih fun d hd => h d (List.mem_cons_of_mem c hd)

/-- Digits fit before any text. -/
theorem fits_of_digits (h : ∀ c ∈ cs, isDigit c = true) : Fits cs rest :=
  fits_of_isNamePart fun c hc => isNamePart_of_isDigit (h c hc)

/-- A single character of the alphabet fits unless it is a point. -/
theorem fits_singleton (hc : InAlphabet c) (hne : c ≠ '.') : Fits [c] rest :=
  (fits_cons_of_ne hc hne).mpr trivial

/-- A point fits before digits. -/
theorem fits_pointed {fs : List Char} (h : ∀ c ∈ fs, isDigit c = true) :
    Fits (pointed fs) rest := by
  cases fs with
  | nil => trivial
  | cons f r =>
      have hpoint : InAlphabet '.' := Or.inr (by decide)
      exact ⟨⟨hpoint, fun _ => ⟨f, rfl, h f List.mem_cons_self⟩⟩, fits_of_digits h⟩

end Lexeme

namespace Terminal

open Lexeme

variable {m : Terminal} {cs : List Char}

/-- **A text of a terminal fits**, whatever is behind it. -/
theorem Matches.fits (h : m.Matches cs) (rest : List Char) : Fits cs rest := by
  cases m with
  | cellReference =>
      obtain ⟨c, ds, rfl, hc, hds⟩ := h
      refine fits_of_isNamePart (List.forall_mem_cons.mpr ⟨isNamePart_of_isCapital hc, ?_⟩)
      exact fun d hd => isNamePart_of_isDigit (hds.isDigit d hd)
  | name =>
      obtain ⟨c, r, rfl, hc, hr, -⟩ := h
      exact fits_of_isNamePart (List.forall_mem_cons.mpr ⟨isNamePart_of_isNameStart hc, hr⟩)
  | number =>
      obtain ⟨ds, fs, rfl, hds, hfs, -⟩ := h
      exact (fits_append_iff ds (pointed fs)).mpr ⟨fits_of_digits hds, fits_pointed hfs⟩
  | openParen | closeParen | comma =>
      obtain rfl := h
      exact fits_singleton (inAlphabet_iff.mpr (by simp)) (by decide)
  | operator =>
      obtain ⟨c, rfl, hc⟩ := h
      refine fits_singleton (inAlphabet_iff.mpr (by simp [hc])) ?_
      rintro rfl
      cases hc

/-- **A text of a terminal is firm** throughout: it holds neither white space nor a sign of
equality. -/
theorem Matches.firm (h : m.Matches cs) : ∀ c ∈ cs, Firm c := by
  cases m with
  | cellReference =>
      obtain ⟨c, ds, rfl, hc, hds⟩ := h
      exact List.forall_mem_cons.mpr
        ⟨firm_of_isCapital hc, fun d hd => firm_of_isDigit (hds.isDigit d hd)⟩
  | name =>
      obtain ⟨c, r, rfl, hc, hr, -⟩ := h
      exact List.forall_mem_cons.mpr ⟨firm_of_isNamePart (isNamePart_of_isNameStart hc),
        fun d hd => firm_of_isNamePart (hr d hd)⟩
  | number =>
      obtain ⟨ds, fs, rfl, hds, hfs, -⟩ := h
      have hpointed : ∀ c ∈ pointed fs, Firm c := by
        cases fs with
        | nil => exact fun c hc => by cases hc
        | cons f r =>
            exact List.forall_mem_cons.mpr ⟨by decide, fun c hc => firm_of_isDigit (hfs c hc)⟩
      exact List.forall_mem_append.mpr ⟨fun c hc => firm_of_isDigit (hds c hc), hpointed⟩
  | openParen | closeParen | comma =>
      obtain rfl := h
      exact firm_of_all (by decide)
  | operator =>
      obtain ⟨c, rfl, hc⟩ := h
      simp only [isSign, Bool.or_eq_true, beq_iff_eq] at hc
      obtain ((rfl | rfl) | rfl) | rfl := hc <;> exact firm_of_all (by decide)

end Terminal

namespace Lexeme

/-! ### The way of the reader -/

/-- The reader **reaches** the rest of a text by going over white space and lexemes. -/
inductive Reaches : List Char → List Char → Prop
  | refl (cs : List Char) : Reaches cs cs
  | space {c : Char} {r rest : List Char} :
      isSpace c = true → Reaches r rest → Reaches (c :: r) rest
  | lexeme {cs tail rest : List Char} {l : Lexeme} :
      next? cs = some (l, tail) → Reaches tail rest → Reaches cs rest

/-- The reader is **stuck** at a character when neither white space nor a lexeme begins
there. -/
def Stuck (c : Char) (r : List Char) : Prop := isSpace c = false ∧ next? (c :: r) = none

variable {cs rest r : List Char} {c : Char}

/-- The lexer reaches the text that it leaves. -/
theorem reaches_scan (cs : List Char) : Reaches cs (scan cs).2 := by
  induction cs using scan.induct with
  | case1 =>
      rw [scan_nil]
      exact .refl []
  | case2 c r hc ih =>
      rw [scan_space hc]
      exact .space hc ih
  | case3 c r hc hnone =>
      rw [scan_stuck hc hnone]
      exact .refl (c :: r)
  | case4 c r hc l rest hnext _ _ _ ih =>
      rw [scan_of_next? hnext]
      exact .lexeme hnext ih

/-- What the reader goes over fits. -/
theorem Reaches.fits (h : Reaches cs rest) : ∃ read, cs = read ++ rest ∧ Fits read rest := by
  induction h with
  | refl cs => exact ⟨[], rfl, trivial⟩
  | @space c r rest hc _ ih =>
      obtain ⟨read, rfl, hread⟩ := ih
      have hne : c ≠ '.' := by
        rintro rfl
        cases hc
      exact ⟨c :: read, rfl, (fits_cons_of_ne (inAlphabet_iff.mpr (by simp [hc])) hne).mpr hread⟩
  | @lexeme cs tail rest l hnext _ ih =>
      obtain ⟨read, rfl, hread⟩ := ih
      refine ⟨l.chars ++ read, ?_, (fits_append_iff _ _).mpr ⟨?_, hread⟩⟩
      · rw [List.append_assoc, text_append_rest hnext]
      · exact (matches_of_next? hnext).fits _

/-- The lexer is stuck at the first character that it leaves. -/
theorem stuck_of_scan (h : (scan cs).2 = c :: r) : Stuck c r := by
  induction cs using scan.induct with
  | case1 =>
      rw [scan_nil] at h
      cases h
  | case2 c' r' hc ih =>
      rw [scan_space hc] at h
      exact ih h
  | case3 c' r' hc hnone =>
      rw [scan_stuck hc hnone] at h
      obtain ⟨rfl, rfl⟩ := List.cons.inj h
      exact ⟨Bool.eq_false_iff.mpr hc, hnone⟩
  | case4 c' r' hc l tail hnext _ _ _ ih =>
      rw [scan_of_next? hnext] at h
      exact ih h

/-- A character at which the reader is stuck does not fit. -/
theorem Stuck.not_fits (h : Stuck c r) : ¬ Fits [c] r := by
  rintro ⟨⟨hc, hpoint⟩, -⟩
  obtain ⟨hspace, h⟩ := h
  rw [List.nil_append] at hpoint
  simp only [next?] at h
  split at h
  · cases h
  split at h
  · cases h
  rename_i hstart
  split at h
  · cases h
  rename_i hdigit
  split at h
  · cases h
  split at h
  · cases h
  split at h
  · cases h
  split at h
  · cases h
  rename_i hopen hclose hcomma hsign
  have hpart : ¬ isNamePart c = true := by
    rw [isNamePart, Bool.or_eq_true]
    exact fun hc => hc.elim hstart hdigit
  obtain rfl : c = '.' := by
    rw [inAlphabet_iff, hspace] at hc
    tauto
  obtain ⟨d, hd, hdd⟩ := hpoint rfl
  obtain ⟨r', rfl⟩ := List.head?_eq_some_iff.mp hd
  rw [fraction_point hdd] at h
  cases h

/-- The reader leaves a text at a character that does not fit, and all before it fits. -/
theorem exists_unfit (h : (scan cs).2 = c :: r) :
    ∃ read, cs = read ++ c :: r ∧ Fits read (c :: r) ∧ ¬ Fits [c] r := by
  obtain ⟨read, heq, hread⟩ := (reaches_scan cs).fits
  rw [h] at heq hread
  exact ⟨read, heq, hread, (stuck_of_scan h).not_fits⟩

/-- Nothing before a character that does not fit makes it fit. -/
theorem not_fits_append (hc : ¬ Fits [c] r) (read : List Char) : ¬ Fits (read ++ c :: r) [] := by
  rw [fits_append_iff, fits_cons_iff, List.append_nil r]
  exact fun h => hc h.2.1

/-- **Nothing is left of a text exactly when all of it fits.** -/
theorem scan_complete_iff : (scan cs).2 = [] ↔ Readable cs := by
  rw [readable_iff_fits]
  cases hrest : (scan cs).2 with
  | nil =>
      obtain ⟨read, heq, hread⟩ := (reaches_scan cs).fits
      rw [hrest, List.append_nil] at heq
      rw [hrest, ← heq] at hread
      exact iff_of_true rfl hread
  | cons c r =>
      obtain ⟨read, rfl, -, hc⟩ := exists_unfit hrest
      exact iff_of_false (List.cons_ne_nil c r) (not_fits_append hc read)

/-! ### What is cut off -/

/-- White space between lexemes is taken away at the ends of a text. -/
theorem isSpace_of_firm (h : Firm c) : isSpace c = false := by
  rw [Bool.eq_false_iff]
  intro hc
  simp only [isSpace, Bool.or_eq_true, beq_iff_eq] at hc
  obtain (((rfl | rfl) | rfl) | rfl) | rfl := hc <;> exact absurd h (by decide)

/-- **The lexemes of a text are the text without its white space**, and so is what is left. -/
theorem flatMap_chars_scan (cs : List Char) :
    (scan cs).1.flatMap chars ++ (scan cs).2.filter (! isSpace ·) = cs.filter (! isSpace ·) := by
  induction cs using scan.induct with
  | case1 => simp [scan_nil]
  | case2 c r hc ih => rw [scan_space hc, ih, List.filter_cons_of_neg (by simp [hc])]
  | case3 c r hc hnone =>
      rw [scan_stuck hc hnone]
      rfl
  | case4 c r hc l rest hnext _ _ _ ih =>
      have hself : l.chars.filter (! isSpace ·) = l.chars := by
        refine List.filter_eq_self.mpr fun d hd => ?_
        rw [isSpace_of_firm ((matches_of_next? hnext).firm d hd)]
        rfl
      rw [scan_of_next? hnext, List.flatMap_cons, List.append_assoc, ih,
        ← text_append_rest hnext, List.filter_append, hself]

end Lexeme

/-! ### Tokens -/

/-- A name does not begin like a reference. -/
theorem Token.Spelled.name_head {t : Token} (h : t.Spelled) (hkind : t.kind = .functionName)
    {c d : Char} {r : List Char} (htext : t.text.toList = c :: d :: r) :
    ¬ (c.isUpper = true ∧ d.isDigit = true) := by
  obtain ⟨m, hm, hmatch⟩ := h
  rw [hkind] at hm
  cases m with
  | name =>
      obtain ⟨c', r', heq, -, -, hhead⟩ := hmatch
      rintro ⟨hc, hd⟩
      obtain ⟨rfl, rfl⟩ := List.cons.inj (htext.symm.trans heq)
      have hdigit : Text.isDigit d = false := hhead ((Lexeme.isCapital_eq c).trans hc) d rfl
      exact absurd (hdigit.symm.trans hd) (by decide)
  | _ => cases hm

/-- **Which texts are cut into tokens**: those that are readable, without the white space
around them and without a sign of equality. The tokens are then the text without the white
space in it, and each has a text of its kind, a name never one that begins like a
reference. -/
theorem tokenize_readable (text : String) :
    ((∃ ts, tokenize text = .ok ts) ↔ Lexeme.Readable (formulaChars text).2) ∧
    ∀ ts, tokenize text = .ok ts →
      ts.flatMap (·.text.toList) = (formulaChars text).2.filter (! Lexeme.isSpace ·) ∧
      (∀ t ∈ ts, ∀ c ∈ t.text.toList, Text.isBlank c = false) ∧
      (∀ t ∈ ts, t.Spelled) ∧
      ∀ t ∈ ts, t.kind = .functionName → ∀ c d r, t.text.toList = c :: d :: r →
        ¬ (c.isUpper = true ∧ d.isDigit = true) := by
  refine ⟨?_, fun ts h => ?_⟩
  · rw [← Lexeme.scan_complete_iff]
    constructor
    · rintro ⟨ts, h⟩
      obtain ⟨ls, hls, -⟩ := Formula.tokenize_eq_ok_iff.mp h
      exact congrArg Prod.snd hls
    · intro h
      exact ⟨_, Formula.tokenize_eq_ok_iff.mpr ⟨_, Prod.ext rfl h, rfl⟩⟩
  · have hspelled := spelled_of_tokenize h
    refine ⟨?_, fun t ht c hc => ?_, hspelled,
      fun t ht hkind c d r htext => (hspelled t ht).name_head hkind htext⟩
    · obtain ⟨ls, hls, rfl⟩ := Formula.tokenize_eq_ok_iff.mp h
      have hchars := Lexeme.flatMap_chars_scan (formulaChars text).2
      rw [hls, List.filter_nil, List.append_nil] at hchars
      rw [← hchars, List.flatMap_map]
      exact congrArg (List.flatMap · ls) (funext fun l => String.toList_ofList)
    · obtain ⟨m, -, hmatch⟩ := hspelled t ht
      exact (hmatch.firm c hc).1

/-- The text `= A1B .5` is cut into a reference, a name and a number. -/
theorem tokenize_readable_point : ∃ ts : List Token,
    ts = [⟨.cellReference, "A1"⟩, ⟨.functionName, "B"⟩, ⟨.number, ".5"⟩] ∧
    tokenize "= A1B .5" = .ok ts ∧
    Lexeme.Readable [' ', 'A', '1', 'B', ' ', '.', '5'] ∧
    ts.flatMap (·.text.toList) = ['A', '1', 'B', '.', '5'] ∧ ∀ t ∈ ts, t.Spelled := by
  have hchars : formulaChars "= A1B .5" = (true, [' ', 'A', '1', 'B', ' ', '.', '5']) := rfl
  have hlexes : Lexeme.Lexes (formulaChars "= A1B .5").2
      [⟨.cellReference, ['A', '1']⟩, ⟨.name, ['B']⟩, ⟨.number, ['.', '5']⟩] := by
    have hreference : Lexeme.next? ['A', '1', 'B', ' ', '.', '5'] =
        some (⟨.cellReference, ['A', '1']⟩, ['B', ' ', '.', '5']) := rfl
    have hname : Lexeme.next? ['B', ' ', '.', '5'] = some (⟨.name, ['B']⟩, [' ', '.', '5']) := rfl
    have hnumber : Lexeme.next? ['.', '5'] = some (⟨.number, ['.', '5']⟩, []) := rfl
    rw [hchars, Lexeme.Lexes, Lexeme.scan_space rfl, Lexeme.scan_of_next? hreference,
      Lexeme.scan_of_next? hname, Lexeme.scan_space rfl, Lexeme.scan_of_next? hnumber,
      Lexeme.scan_nil]
  have htokens := Formula.tokenize_eq_ok_iff.mpr ⟨_, hlexes, rfl⟩
  obtain ⟨hreadable, htext⟩ := tokenize_readable "= A1B .5"
  obtain ⟨hjoined, -, hspelled, -⟩ := htext _ htokens
  refine ⟨_, rfl, htokens, ?_, hjoined, hspelled⟩
  rw [hchars] at hreadable
  exact hreadable.mp ⟨_, htokens⟩

end SheetFormula
