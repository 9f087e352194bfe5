import SheetFormula.Proofs.Culprits
import SheetFormula.Proofs.Spacing

/-!
# The Sign of Equality in Front

A sign of equality may stand before a formula and counts for nothing. White space is taken
away at the ends of the whole text, so what stands between the sign and the formula stays:
the reader has to skip it, and it skips less than is taken away at the ends. With the sign in
front a text gives the same tokens as without it, unless its formula has white space before
it that only the ends of a text may have.

## Main results

* `formulaChars_marked`: behind a sign of equality the white space before a formula **stays**.
* `tokenize_marked_iff`: **when the sign of equality is optional**.
* `tokenize_marked_stuck`: otherwise the reader is stuck before the formula.
* `tokenize_marked_ne`: a no-break space is taken away without the sign, and not behind it.
-/

namespace SheetFormula

/-! ### White space at the end -/

namespace Text

/-- What is dropped at the end of a text is behind each character that stays. -/
theorem dropEnd_append_cons {p : Char → Bool} {c : Char} (hc : p c = false)
    (cs ds : List Char) : dropEnd p (cs ++ c :: ds) = cs ++ c :: dropEnd p ds := by
  have hstop : ∀ d ∈ (c :: cs.reverse).head?, p d = false := by
    rintro d ⟨⟩
    exact hc
  have hreverse : (cs ++ c :: ds).reverse = ds.reverse ++ c :: cs.reverse := by simp
  rw [dropEnd, hreverse, Lexeme.dropWhile_append_stop hstop]
  simp [dropEnd]

/-- A list trimmed at its end only is the list trimmed at both ends, with what stood before
that, unless nothing stays. -/
theorem dropEnd_cases (p : Char → Bool) (cs : List Char) :
    (trimBy p cs = [] ∧ dropEnd p cs = []) ∨
      (trimBy p cs ≠ [] ∧ dropEnd p cs = cs.takeWhile p ++ trimBy p cs) := by
  rw [trimBy]
  cases hdrop : cs.dropWhile p with
  | nil =>
      have hall : ∀ c ∈ cs.reverse, p c = true := fun c hc =>
        List.dropWhile_eq_nil_iff.mp hdrop c (List.mem_reverse.mp hc)
      rw [dropEnd, dropEnd, List.dropWhile_eq_nil_iff.mpr hall]
      exact .inl ⟨rfl, rfl⟩
  | cons c r =>
      have hc : p c = false := by
        have hhead := List.head?_dropWhile_not p cs
        rw [hdrop] at hhead
        exact hhead
      have hcs : cs = cs.takeWhile p ++ c :: r := by
        rw [← hdrop, List.takeWhile_append_dropWhile]
      have hrest : dropEnd p (c :: r) = c :: dropEnd p r := dropEnd_append_cons hc [] r
      rw [hrest, ← dropEnd_append_cons hc, ← hcs]
      exact .inr ⟨List.cons_ne_nil _ _, rfl⟩

end Text

/-! ### The formula of a text -/

/-- A text without a sign of equality is its formula, without the white space around it. -/
theorem formulaChars_unmarked_iff {s : String} {cs : List Char} :
    formulaChars s = (false, cs) ↔ Text.trimBlanks s.toList = cs ∧ cs.head? ≠ some '=' := by
  rw [formulaChars]
  split
  · rename_i r heq
    rw [heq]
    refine iff_of_false (by simp) ?_
    rintro ⟨rfl, hhead⟩
    exact hhead rfl
  · rename_i hne
    rw [Prod.mk.injEq, and_iff_right rfl, iff_self_and]
    rintro rfl hhead
    obtain ⟨r, hr⟩ := List.head?_eq_some_iff.mp hhead
    exact hne r hr

/-- A text without the mark is read from its trimmed characters. -/
theorem trimBlanks_eq_of_unmarked {s : String} (h : (formulaChars s).1 = false) :
    Text.trimBlanks s.toList = (formulaChars s).2 :=
  (formulaChars_unmarked_iff.mp (Prod.ext h rfl)).1

/-- **Behind a sign of equality the white space before a formula stays**; where there is
nothing but white space, all of it is taken away. -/
theorem formulaChars_marked (s : String) :
    (Text.trimBlanks s.toList = [] ∧ formulaChars ("=" ++ s) = (true, [])) ∨
      (Text.trimBlanks s.toList ≠ [] ∧
        formulaChars ("=" ++ s) = (true, leadingBlanks s ++ Text.trimBlanks s.toList)) := by
  have hmark : Text.isBlank '=' = false := by decide
  have hchars : formulaChars ("=" ++ s) = (true, Text.dropEnd Text.isBlank s.toList) := by
    have happend : ("=" ++ s).toList = '=' :: s.toList := String.toList_append
    have htrim : Text.trimBlanks ('=' :: s.toList) =
        '=' :: Text.dropEnd Text.isBlank s.toList := by
      rw [Text.trimBlanks, Text.trimBy, List.dropWhile_cons_of_neg (by rw [hmark]; decide)]
      exact Text.dropEnd_append_cons hmark [] s.toList
    rw [formulaChars, happend, htrim]
    rfl
  obtain ⟨hnone, hdrop⟩ | ⟨hsome, hdrop⟩ := Text.dropEnd_cases Text.isBlank s.toList
  · exact .inl ⟨hnone, by rw [hchars, hdrop]⟩
  · exact .inr ⟨hsome, by rw [hchars, hdrop]; rfl⟩

/-! ### White space of the alphabet -/

namespace Lexeme

/-- Of the white space, what the reader skips is what the alphabet has. -/
theorem inAlphabet_iff_isSpace {c : Char} (hc : Text.isBlank c = true) :
    InAlphabet c ↔ isSpace c = true := by
  rw [inAlphabet_iff]
  constructor
  · rintro (hname | (rfl | rfl | rfl | hsign) | rfl | hspace)
    · rw [(firm_of_isNamePart hname).1] at hc
      cases hc
    · cases hc
    · cases hc
    · cases hc
    · simp only [isSign, Bool.or_eq_true, beq_iff_eq] at hsign
      obtain ((rfl | rfl) | rfl) | rfl := hsign <;> cases hc
    · cases hc
    · exact hspace
  · exact fun hspace => .inr (.inr (.inr hspace))

end Lexeme

/-! ### With and without the sign -/

variable {s : String}

/-- The blanks in front of a text are blank. -/
theorem isBlank_of_mem_leadingBlanks {c : Char} (h : c ∈ leadingBlanks s) :
    Text.isBlank c = true :=
  List.mem_takeWhile_imp h

/-- **When the sign of equality is optional.** With it in front a text has the tokens that it
has without it when there is no other such sign, and the white space before the formula, if
there is a formula, is what may stand between lexemes; otherwise it has no tokens. -/
theorem tokenize_marked_iff {ts : List Token} : tokenize ("=" ++ s) = .ok ts ↔
    tokenize s = .ok ts ∧ (formulaChars s).1 = false ∧
      ((formulaChars s).2 = [] ∨ ∀ c ∈ leadingBlanks s, Lexeme.isSpace c = true) := by
  rw [Formula.tokenize_eq_ok_iff, Formula.tokenize_eq_ok_iff]
  obtain ⟨hnone, hmarked⟩ | ⟨hsome, hmarked⟩ := formulaChars_marked s
  · have hchars : formulaChars s = (false, []) :=
      formulaChars_unmarked_iff.mpr ⟨hnone, by simp⟩
    simp [hmarked, hchars]
  rw [hmarked]
  constructor
  · intro h
    have hreadable : Lexeme.Readable (leadingBlanks s ++ Text.trimBlanks s.toList) := by
      obtain ⟨ls, hls, -⟩ := h
      exact Lexeme.scan_complete_iff.mp (congrArg Prod.snd hls)
    have hspaces : ∀ c ∈ leadingBlanks s, Lexeme.isSpace c = true := fun c hc =>
      (Lexeme.inAlphabet_iff_isSpace (isBlank_of_mem_leadingBlanks hc)).mp
        (hreadable.inAlphabet c (List.mem_append_left _ hc))
    have hunmarked : (Text.trimBlanks s.toList).head? ≠ some '=' := fun hhead =>
      absurd (hreadable.inAlphabet '=' (List.mem_append_right _ (List.mem_of_mem_head? hhead)))
        (by simp [Lexeme.InAlphabet])
    rw [formulaChars_unmarked_iff.mpr ⟨rfl, hunmarked⟩]
    exact ⟨(Token.prints_spaces_iff hspaces).mp h, rfl, .inr hspaces⟩
  · rintro ⟨h, hunmarked, hspaces⟩
    rw [trimBlanks_eq_of_unmarked hunmarked] at hsome ⊢
    exact (Token.prints_spaces_iff (hspaces.resolve_left hsome)).mpr h

/-- Otherwise the reader is **stuck before the formula**, at white space that is taken away
where there is no sign, the first that it does not skip. -/
theorem tokenize_marked_stuck (hsome : Text.trimBlanks s.toList ≠ [])
    (hblanks : ¬ ∀ c ∈ leadingBlanks s, Lexeme.isSpace c = true) :
    ∃ site, tokenize ("=" ++ s) = .error site ∧ site.char ∈ leadingBlanks s ∧
      Lexeme.isSpace site.char = false := by
  obtain ⟨c, hfirst⟩ : ∃ c, (leadingBlanks s).find? (! Lexeme.isSpace ·) = some c := by
    rw [← Option.isSome_iff_exists, List.find?_isSome]
    simpa using hblanks
  obtain ⟨hnot, us, vs, hsplit, hus⟩ := List.find?_eq_some_iff_append.mp hfirst
  have hspaces : ∀ d ∈ us, Lexeme.isSpace d = true := by simpa using hus
  have hc : Lexeme.isSpace c = false := by simpa using hnot
  have hmem : c ∈ leadingBlanks s := List.mem_of_find?_eq_some hfirst
  have hout : ¬ Lexeme.Fits [c] (vs ++ Text.trimBlanks s.toList) := by
    rintro ⟨⟨halphabet, -⟩, -⟩
    rw [(Lexeme.inAlphabet_iff_isSpace (isBlank_of_mem_leadingBlanks hmem)).mp halphabet] at hc
    cases hc
  have hmarked := ((formulaChars_marked s).resolve_left fun h => hsome h.1).2
  have hscan : (Lexeme.scan (formulaChars ("=" ++ s)).2).2 =
      c :: (vs ++ Text.trimBlanks s.toList) := by
    rw [hmarked, hsplit, List.append_assoc, Lexeme.scan_spaces hspaces]
    exact Lexeme.scan_rest_iff.mpr ⟨[], rfl, trivial, hout⟩
  cases htokens : tokenize ("=" ++ s) with
  | ok ts =>
      obtain ⟨ls, hls, -⟩ := Formula.tokenize_eq_ok_iff.mp htokens
      rw [hls] at hscan
      cases hscan
  | error site =>
      obtain ⟨-, hsite⟩ := Site.of_tokenize htokens
      obtain ⟨hchar, -⟩ := List.cons.inj (hsite.symm.trans hscan)
      exact ⟨site, rfl, hchar ▸ hmem, hchar ▸ hc⟩

/-- White space that is taken away without the sign is not always skipped behind it: a
no-break space before a formula is not. -/
theorem tokenize_marked_ne : formulaChars "\u00a01" = (false, ['1']) ∧
    tokenize "\u00a01" = .ok [⟨.number, "1"⟩] ∧ ¬ ∃ ts, tokenize ("=" ++ "\u00a01") = .ok ts := by
  have hstuck : tokenize ("=" ++ "\u00a01") = .error ⟨[], '\u00a0', ['1'], none, true⟩ := by cbv
  refine ⟨formulaChars_unmarked_iff.mpr ⟨by decide, by decide⟩, by cbv, ?_⟩
  rintro ⟨ts, hts⟩
  cases hstuck.symm.trans hts

end SheetFormula
