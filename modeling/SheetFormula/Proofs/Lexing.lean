import Mathlib.Data.List.TakeWhile
import SheetFormula.Token.Site

/-!
# Lexing Piece by Piece

A text is cut into lexemes piece by piece, as long as no piece goes on beyond its end. A
lexeme goes on with the characters of names, with digits and with a point, so a piece that
is followed by a space, a sign or a parenthesis is cut as if it stood alone.

## Main results

* `Lexes.scan_append`: **pieces are cut one by one**.
* `Lexeme.next?_number`: a number with or without a fraction is one lexeme.
* `Lexeme.next?_reference`: a reference is one lexeme.
* `Lexeme.Tight.formulaChars`: a text with firm ends is cut as it is.
-/

namespace SheetFormula

namespace Lexeme

open Text (isDigit)

/-- A text **stops** a lexeme before it when it is empty or begins with a character that goes
on no lexeme. -/
def Stops (cs : List Char) : Prop := ∀ c ∈ cs.head?, isNamePart c = false ∧ c ≠ '.'

/-- Some characters are **digits**, and there is one. -/
structure AreDigits (ds : List Char) : Prop where
  ne_nil : ds ≠ []
  isDigit : ∀ c ∈ ds, isDigit c = true

variable {cs rest : List Char}

/-! ### Runs of characters -/

/-- Taking while a test holds goes no further than a rest that fails it at once. -/
theorem takeWhile_append_stop {p : Char → Bool} (h : ∀ c ∈ rest.head?, p c = false) :
    (cs ++ rest).takeWhile p = cs.takeWhile p := by
  induction cs with
  | nil =>
      cases rest with
      | nil => rfl
      | cons c r => rw [List.nil_append, List.takeWhile_cons_of_neg (by simp [h c rfl])]; rfl
  | cons c r ih =>
      by_cases hc : p c = true
      · rw [List.cons_append, List.takeWhile_cons_of_pos hc, List.takeWhile_cons_of_pos hc, ih]
      · rw [List.cons_append, List.takeWhile_cons_of_neg hc, List.takeWhile_cons_of_neg hc]

/-- Dropping while a test holds goes no further than a rest that fails it at once. -/
theorem dropWhile_append_stop {p : Char → Bool} (h : ∀ c ∈ rest.head?, p c = false) :
    (cs ++ rest).dropWhile p = cs.dropWhile p ++ rest := by
  induction cs with
  | nil =>
      cases rest with
      | nil => rfl
      | cons c r => rw [List.nil_append, List.dropWhile_cons_of_neg (by simp [h c rfl])]; rfl
  | cons c r ih =>
      by_cases hc : p c = true
      · rw [List.cons_append, List.dropWhile_cons_of_pos hc, List.dropWhile_cons_of_pos hc, ih]
      · rw [List.cons_append, List.dropWhile_cons_of_neg hc, List.dropWhile_cons_of_neg hc]
        rfl

/-- A digit can stand in a name. -/
theorem isNamePart_of_isDigit {c : Char} (h : isDigit c = true) : isNamePart c = true := by
  rw [isNamePart, h, Bool.or_true]

/-- What can begin a name can stand in it. -/
theorem isNamePart_of_isNameStart {c : Char} (h : isNameStart c = true) : isNamePart c = true := by
  rw [isNamePart, h, Bool.true_or]

/-- A capital letter can stand in a name. -/
theorem isNamePart_of_isCapital {c : Char} (h : isCapital c = true) : isNamePart c = true :=
  isNamePart_of_isNameStart (by rw [isNameStart, h, Bool.true_or, Bool.true_or])

/-- What cannot stand in a name is no digit. -/
theorem isDigit_of_isNamePart {c : Char} (h : isNamePart c = false) : isDigit c = false := by
  rw [isNamePart, Bool.or_eq_false_iff] at h
  exact h.2

/-- A text that stops a lexeme does not begin with a digit. -/
theorem Stops.isDigit (h : Stops rest) : ∀ c ∈ rest.head?, isDigit c = false :=
  fun c hc => isDigit_of_isNamePart (h c hc).1

/-! ### Fractions -/

/-- A point with a digit behind it begins a fraction of all the digits there. -/
theorem fraction_point {d : Char} {r : List Char} (hd : isDigit d = true) :
    fraction ('.' :: d :: r) = ('.' :: d :: r.takeWhile isDigit, r.dropWhile isDigit) := by
  rw [fraction, if_pos hd]

/-- There is no fraction unless a point with a digit behind it comes first. -/
theorem fraction_eq_nil (h : ∀ d r, cs = '.' :: d :: r → isDigit d = false) :
    fraction cs = ([], cs) := by
  simp only [fraction]
  split
  · rename_i d r
    rw [if_neg (by rw [h d r rfl]; decide)]
  · rfl

/-- A fraction is read no further than a text that stops it. -/
theorem fraction_append_stop (h : Stops rest) :
    fraction (cs ++ rest) = ((fraction cs).1, (fraction cs).2 ++ rest) := by
  by_cases hcs : ∃ d r, cs = '.' :: d :: r ∧ isDigit d = true
  · obtain ⟨d, r, rfl, hd⟩ := hcs
    rw [List.cons_append, List.cons_append, fraction_point hd, fraction_point hd,
      takeWhile_append_stop h.isDigit, dropWhile_append_stop h.isDigit]
  · have hnone : ∀ d r, cs = '.' :: d :: r → isDigit d = false := by
      intro d r hdr
      cases hd : isDigit d with
      | false => rfl
      | true => exact absurd ⟨d, r, hdr, hd⟩ hcs
    rw [fraction_eq_nil hnone, fraction_eq_nil]
    intro d r hdr
    match cs, hdr with
    | [], hdr =>
        obtain rfl : rest = '.' :: d :: r := hdr
        exact absurd rfl (h '.' rfl).2
    | [c], hdr =>
        obtain ⟨-, rfl⟩ := List.cons.inj hdr
        exact h.isDigit d rfl
    | c :: d' :: r', hdr =>
        obtain ⟨rfl, hr⟩ := List.cons.inj hdr
        obtain ⟨rfl, -⟩ := List.cons.inj hr
        exact hnone d' r' rfl

/-! ### Lexemes before a stop -/

/-- **A lexeme does not go on beyond a stop.** -/
theorem next?_append_stop {c : Char} {r : List Char} (h : Stops rest) :
    next? (c :: r ++ rest) = (next? (c :: r)).map fun p => (p.1, p.2 ++ rest) := by
  have hname : ∀ c ∈ rest.head?, isNamePart c = false := fun c hc => (h c hc).1
  have hhead : ((r ++ rest).head?.any isDigit) = (r.head?.any isDigit) := by
    cases r with
    | nil =>
        cases hrest : rest.head? with
        | none => rw [List.nil_append, hrest]; rfl
        | some d =>
            rw [List.nil_append, hrest]
            exact h.isDigit d hrest
    | cons d s => rfl
  have hpoint : fraction (c :: r ++ rest) =
      ((fraction (c :: r)).1, (fraction (c :: r)).2 ++ rest) := fraction_append_stop h
  rw [List.cons_append] at hpoint
  simp only [next?, List.cons_append, hhead, takeWhile_append_stop h.isDigit,
    dropWhile_append_stop h.isDigit, takeWhile_append_stop hname, dropWhile_append_stop hname,
    fraction_append_stop h, hpoint]
  split
  · rfl
  split
  · rfl
  split
  · rfl
  split
  · rfl
  split
  · rfl
  split
  · rfl
  split
  · rfl
  obtain ⟨fs, tail⟩ := fraction (c :: r)
  cases fs with
  | nil => rfl
  | cons d ds => rfl

/-! ### Texts -/

/-- A text **lexes** as some lexemes when it is cut into them and nothing is left. -/
def Lexes (cs : List Char) (ls : List Lexeme) : Prop := scan cs = (ls, [])

/-- Nothing is scanned as no lexemes. -/
theorem scan_nil : scan [] = ([], []) := by
  rw [scan]

/-- White space before a text counts for nothing. -/
theorem scan_space {c : Char} (hc : isSpace c = true) (r : List Char) : scan (c :: r) = scan r := by
  rw [scan, if_pos hc]

/-- No lexeme begins with white space. -/
theorem isSpace_eq_false {c : Char} {r : List Char} {p : Lexeme × List Char}
    (h : next? (c :: r) = some p) : isSpace c = false := by
  cases hc : isSpace c with
  | false => rfl
  | true =>
      exfalso
      simp only [isSpace, Bool.or_eq_true, beq_iff_eq] at hc
      obtain (((rfl | rfl) | rfl) | rfl) | rfl := hc
      all_goals cases h

/-- A text with a lexeme at its beginning is cut there. -/
theorem scan_of_next? {l : Lexeme} (h : next? cs = some (l, rest)) :
    scan cs = (l :: (scan rest).1, (scan rest).2) := by
  cases cs with
  | nil => cases h
  | cons c r =>
      rw [scan, if_neg (by rw [isSpace_eq_false h]; decide)]
      split
      · rename_i hnone
        rw [hnone] at h
        cases h
      · rename_i l' rest' hsome
        rw [hsome] at h
        obtain ⟨rfl, rfl⟩ := Prod.mk.inj (Option.some.inj h)
        rfl

/-- A text at whose beginning there is no lexeme is not cut. -/
theorem scan_stuck {c : Char} {r : List Char} (hc : ¬ isSpace c = true)
    (h : next? (c :: r) = none) : scan (c :: r) = ([], c :: r) := by
  rw [scan, if_neg hc]
  split
  · rfl
  · rename_i hsome
    rw [h] at hsome
    cases hsome

/-- **Pieces are cut one by one**: a text that lexes, with a stop behind it, is cut as it is
alone, and then the rest is cut. -/
theorem Lexes.scan_append {ls : List Lexeme} (h : Lexes cs ls) (hrest : Stops rest) :
    scan (cs ++ rest) = (ls ++ (scan rest).1, (scan rest).2) := by
  induction cs using scan.induct generalizing ls with
  | case1 =>
      rw [Lexes, scan_nil] at h
      obtain ⟨rfl, -⟩ := Prod.mk.inj h
      rfl
  | case2 c r hc ih =>
      rw [Lexes, scan_space hc] at h
      rw [List.cons_append, scan_space hc, ih h]
  | case3 c r hc hnone =>
      rw [Lexes, scan_stuck hc hnone] at h
      cases h
  | case4 c r hc l tail hsome _ _ _ ih =>
      rw [Lexes, scan_of_next? hsome] at h
      obtain ⟨rfl, htail⟩ := Prod.mk.inj h
      have hlexes : Lexes tail (scan tail).1 := Prod.ext rfl htail
      have hnext : next? (c :: r ++ rest) = some (l, tail ++ rest) := by
        rw [next?_append_stop hrest, hsome]
        rfl
      rw [scan_of_next? hnext, ih hlexes]
      rfl

/-! ### Numbers -/

/-- The part of a number from the point on, if it has digits there. -/
def pointed (fs : List Char) : List Char := if fs.isEmpty then [] else '.' :: fs

/-- A text **ends a number** before it when it begins neither with a digit nor with a
point. -/
def EndsNumber (cs : List Char) : Prop := ∀ c ∈ cs.head?, isDigit c = false ∧ c ≠ '.'

/-- All of some digits are taken, up to what is no digit. -/
theorem takeWhile_digits {ds : List Char} (hds : ∀ c ∈ ds, isDigit c = true)
    (hrest : ∀ c ∈ rest.head?, isDigit c = false) : (ds ++ rest).takeWhile isDigit = ds := by
  rw [takeWhile_append_stop hrest, List.takeWhile_eq_self_iff.mpr hds]

/-- All of some digits are dropped, up to what is no digit. -/
theorem dropWhile_digits {ds : List Char} (hds : ∀ c ∈ ds, isDigit c = true)
    (hrest : ∀ c ∈ rest.head?, isDigit c = false) : (ds ++ rest).dropWhile isDigit = rest := by
  rw [dropWhile_append_stop hrest, List.dropWhile_eq_nil_iff.mpr hds, List.nil_append]

/-- The fraction of a number ends where its digits do. -/
theorem fraction_pointed {fs : List Char} (hfs : ∀ c ∈ fs, isDigit c = true)
    (hrest : EndsNumber rest) : fraction (pointed fs ++ rest) = (pointed fs, rest) := by
  have hdigit : ∀ c ∈ rest.head?, isDigit c = false := fun c hc => (hrest c hc).1
  cases fs with
  | nil =>
      refine fraction_eq_nil (fun d r hdr => ?_)
      obtain rfl : rest = '.' :: d :: r := hdr
      exact absurd rfl (hrest '.' rfl).2
  | cons f r =>
      have hr : ∀ c ∈ r, isDigit c = true := fun c hc => hfs c (List.mem_cons_of_mem f hc)
      change fraction ('.' :: f :: (r ++ rest)) = _
      rw [fraction_point (hfs f List.mem_cons_self), takeWhile_digits hr hdigit,
        dropWhile_digits hr hdigit]
      rfl

/-- A digit is no letter. -/
theorem isNameStart_of_isDigit {c : Char} (h : isDigit c = true) :
    isNameStart c = false ∧ isCapital c = false := by
  have hdigits : ∀ n < 10, isNameStart (Text.digitChar n) = false ∧
      isCapital (Text.digitChar n) = false := by decide
  exact Text.forall_isDigit
    (P := fun c => isNameStart c = false ∧ isCapital c = false) hdigits h

/-- **A number is one lexeme**, with its fraction if it has one. -/
theorem next?_number {ds fs : List Char} (hds : AreDigits ds)
    (hfs : ∀ c ∈ fs, isDigit c = true) (hrest : EndsNumber rest) :
    next? (ds ++ (pointed fs ++ rest)) = some (⟨.number, ds ++ pointed fs⟩, rest) := by
  obtain ⟨d, r, rfl⟩ := List.exists_cons_of_ne_nil hds.ne_nil
  have hd := hds.isDigit d List.mem_cons_self
  have hr : ∀ c ∈ r, isDigit c = true := fun c hc => hds.isDigit c (List.mem_cons_of_mem d hc)
  obtain ⟨hstart, hcapital⟩ := isNameStart_of_isDigit hd
  have htail : ∀ c ∈ (pointed fs ++ rest).head?, isDigit c = false := by
    cases fs with
    | nil => exact fun c hc => (hrest c hc).1
    | cons f s =>
        intro c hc
        obtain rfl : '.' = c := Option.some.inj hc
        rfl
  rw [List.cons_append, next?, hcapital, Bool.false_and, if_neg (by decide), hstart,
    if_neg (by decide), if_pos hd, takeWhile_digits hr htail, dropWhile_digits hr htail,
    fraction_pointed hfs hrest]

/-! ### References -/

/-- **A reference is one lexeme**: a capital and all digits behind it. -/
theorem next?_reference {c : Char} {ds : List Char} (hc : isCapital c = true) (hds : AreDigits ds)
    (hrest : ∀ c ∈ rest.head?, isDigit c = false) :
    next? (c :: (ds ++ rest)) = some (⟨.cellReference, c :: ds⟩, rest) := by
  have hhead : (ds ++ rest).head?.any isDigit = true := by
    obtain ⟨d, r, rfl⟩ := List.exists_cons_of_ne_nil hds.ne_nil
    exact hds.isDigit d List.mem_cons_self
  rw [next?, hc, hhead, Bool.and_self, if_pos rfl, takeWhile_digits hds.isDigit hrest,
    dropWhile_digits hds.isDigit hrest]

/-! ### Single characters -/

/-- An opening parenthesis is a lexeme. -/
theorem scan_openParen (r : List Char) :
    scan ('(' :: r) = (⟨.openParen, ['(']⟩ :: (scan r).1, (scan r).2) := scan_of_next? rfl

/-- A closing parenthesis is a lexeme. -/
theorem scan_closeParen (r : List Char) :
    scan (')' :: r) = (⟨.closeParen, [')']⟩ :: (scan r).1, (scan r).2) := scan_of_next? rfl

/-- A comma is a lexeme. -/
theorem scan_comma (r : List Char) :
    scan (',' :: r) = (⟨.comma, [',']⟩ :: (scan r).1, (scan r).2) := scan_of_next? rfl

/-- A sign is a lexeme whatever is behind it. -/
theorem scan_sign {c : Char} (hc : isSign c = true) (r : List Char) :
    scan (c :: r) = (⟨.operator, [c]⟩ :: (scan r).1, (scan r).2) := by
  simp only [isSign, Bool.or_eq_true, beq_iff_eq] at hc
  obtain ((rfl | rfl) | rfl) | rfl := hc
  all_goals exact scan_of_next? rfl

/-! ### The ends of a text -/

/-- A character is **firm** when it is not taken away at the ends of a text. -/
def Firm (c : Char) : Prop := Text.isBlank c = false ∧ c ≠ '='

instance : DecidablePred Firm :=
  fun c => inferInstanceAs (Decidable (Text.isBlank c = false ∧ c ≠ '='))

/-- What may stand in a name is not taken away. -/
theorem firm_of_isNamePart {c : Char} (h : isNamePart c = true) : Firm c := by
  have hcode : (48 ≤ c.toNat ∧ c.toNat ≤ 57) ∨ (65 ≤ c.toNat ∧ c.toNat ≤ 90) ∨ c.toNat = 95 ∨
      (97 ≤ c.toNat ∧ c.toNat ≤ 122) := by
    simp only [isNamePart, isNameStart, isCapital, isDigit, Bool.or_eq_true, Bool.and_eq_true,
      decide_eq_true_eq, beq_iff_eq] at h
    obtain ((h | h) | rfl) | h := h
    · exact .inr (.inl h)
    · exact .inr (.inr (.inr h))
    · exact .inr (.inr (.inl rfl))
    · exact .inl h
  constructor
  · simp only [Text.isBlank, Bool.or_eq_false_iff, Bool.and_eq_false_iff, decide_eq_false_iff_not,
      beq_eq_false_iff_ne]
    omega
  · rintro rfl
    exact absurd hcode (by decide)

/-- A digit is firm. -/
theorem firm_of_isDigit {c : Char} (h : isDigit c = true) : Firm c :=
  firm_of_isNamePart (isNamePart_of_isDigit h)

/-- A capital letter is firm. -/
theorem firm_of_isCapital {c : Char} (h : isCapital c = true) : Firm c :=
  firm_of_isNamePart (isNamePart_of_isCapital h)

/-- Characters that pass the test of being firm are firm. -/
theorem firm_of_all {cs : List Char} (h : cs.all (fun c => Firm c) = true) : ∀ c ∈ cs, Firm c :=
  fun c hc => of_decide_eq_true (List.all_eq_true.mp h c hc)

/-- A text is **tight** when nothing is taken away from it: it has a first and a last
character, and both are firm. -/
structure Tight (cs : List Char) : Prop where
  head : ∃ c ∈ cs.head?, Firm c
  last : ∃ c ∈ cs.getLast?, Firm c

/-- A text of firm characters is tight. -/
theorem tight_of_forall (hne : cs ≠ []) (h : ∀ c ∈ cs, Firm c) : Tight cs :=
  ⟨⟨cs.head hne, List.head?_eq_some_head hne, h _ (List.head_mem hne)⟩,
    ⟨cs.getLast hne, List.getLast?_eq_some_getLast hne, h _ (List.getLast_mem hne)⟩⟩

/-- Tight texts with anything between them are a tight text. -/
theorem Tight.between {us vs : List Char} (hus : Tight us) (hvs : Tight vs) (ws : List Char) :
    Tight (us ++ (ws ++ vs)) := by
  obtain ⟨c, hc, hfirst⟩ := hus.head
  obtain ⟨d, hd, hlast⟩ := hvs.last
  refine ⟨⟨c, ?_, hfirst⟩, ⟨d, ?_, hlast⟩⟩
  · rw [List.head?_append, hc]
    rfl
  · rw [List.getLast?_append, List.getLast?_append, hd]
    rfl

/-- Nothing is trimmed from a text whose first and last characters are to stay. -/
theorem trimBy_eq_self {p : Char → Bool} (hhead : ∀ c ∈ cs.head?, p c = false)
    (hlast : ∀ c ∈ cs.getLast?, p c = false) : Text.trimBy p cs = cs := by
  have hdrop : ∀ {ds : List Char}, (∀ c ∈ ds.head?, p c = false) → ds.dropWhile p = ds := by
    intro ds hds
    cases ds with
    | nil => rfl
    | cons c r => exact List.dropWhile_cons_of_neg (by rw [hds c rfl]; decide)
  rw [Text.trimBy, Text.dropEnd, hdrop hhead, hdrop, List.reverse_reverse]
  rwa [List.head?_reverse]

/-- A tight text is cut as it is. -/
theorem Tight.formulaChars {s : String} (h : Tight s.toList) :
    formulaChars s = (false, s.toList) := by
  obtain ⟨⟨c, hc, hfirm⟩, ⟨d, hd, hlast⟩⟩ := h
  have htrim : Text.trimBy Text.isBlank s.toList = s.toList := trimBy_eq_self
    (fun x hx => Option.mem_unique hc hx ▸ hfirm.1) (fun x hx => Option.mem_unique hd hx ▸ hlast.1)
  obtain ⟨r, hr⟩ := List.head?_eq_some_iff.mp hc
  rw [SheetFormula.formulaChars, Text.trimBlanks, htrim, hr]
  split
  · rename_i heq
    exact absurd (List.cons.inj heq).1 hfirm.2
  · rfl

/-- A sign of equality before a tight text is taken away. -/
theorem Tight.formulaChars_equals (h : Tight cs) :
    SheetFormula.formulaChars (String.ofList ('=' :: cs)) = (true, cs) := by
  obtain ⟨-, ⟨d, hd, hlast⟩⟩ := h
  have hend : ('=' :: cs).getLast? = some d := by
    rw [List.getLast?_cons, hd]
    rfl
  have hsign : ∀ x ∈ ('=' :: cs).head?, Text.isBlank x = false := by
    intro x hx
    obtain rfl := Option.some.inj hx
    decide
  have htrim : Text.trimBy Text.isBlank ('=' :: cs) = '=' :: cs :=
    trimBy_eq_self hsign (fun x hx => Option.mem_unique hend hx ▸ hlast.1)
  rw [SheetFormula.formulaChars, String.toList_ofList, Text.trimBlanks, htrim]
  rfl

/-- A formula that consists of a reference is that one token. -/
theorem tokenize_reference {c : Char} {ds : List Char} (hc : isCapital c = true)
    (hds : AreDigits ds) : tokenize (String.ofList ('=' :: c :: ds)) =
      .ok [⟨.cellReference, String.ofList (c :: ds)⟩] := by
  have hfirm : ∀ d ∈ c :: ds, Firm d := by
    intro d hd
    obtain rfl | hd := List.mem_cons.mp hd
    · exact firm_of_isCapital hc
    · exact firm_of_isDigit (hds.isDigit d hd)
  have hchars := (tight_of_forall (List.cons_ne_nil c ds) hfirm).formulaChars_equals
  have hnext : next? (c :: ds) = some (⟨.cellReference, c :: ds⟩, []) := by
    have hstop : ∀ c ∈ ([] : List Char).head?, isDigit c = false := by simp
    simpa using next?_reference hc hds hstop
  rw [tokenize, hchars]
  simp only [scan_of_next? hnext, scan_nil]
  rfl

end Lexeme

end SheetFormula
