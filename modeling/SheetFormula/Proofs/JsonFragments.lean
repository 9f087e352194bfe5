import SheetFormula.Proofs.JsonSteps

/-!
# Texts That Go On with a Line

A text is given that goes on with a whole line behind a part of its own. Such a text has no value:
a parser that began before the line either leaves all of it, or it was inside a text, which the
first quote of the line ends, so that its first name follows where a comma or a bracket should.

## Main results

* `Json.scalar_split`: what a number or a name leaves of a text.
* `Json.suffix_of_ok`: **a value that begins before the line** ends before it.
* `Json.parse_ne_ok`: **a text that goes on with a line has no value**.
-/

namespace SheetFormula

namespace Json

open Text (isDigit)

variable {limit : Option Nat} {fuel : Nat}

/-! ### What a parser leaves -/

/-- A text of which only other characters were read has the same end. -/
theorem suffix_of_read {c : Char} {line cs rest read : List Char} (hsplit : cs = read ++ rest)
    (hread : c ∉ read) (h : (c :: line) <:+ cs) : (c :: line) <:+ rest := by
  subst hsplit
  induction read with
  | nil => exact h
  | cons d read ih =>
      rw [List.mem_cons, not_or] at hread
      rw [List.cons_append, List.suffix_cons_iff] at h
      rcases h with heq | h
      · exact absurd (List.cons.inj heq).1 hread.1
      · exact ih hread.2 h

/-- A digit is no opening brace. -/
theorem ne_brace_of_isDigit {c : Char} (hc : isDigit c = true) : c ≠ '\x7b' := by
  rintro rfl
  exact absurd hc (by decide)

/-- The digits of a whole part and what follows make up the text, and hold no brace. -/
theorem wholeDigits_split (cs : List Char) :
    cs = (wholeDigits cs).1 ++ (wholeDigits cs).2 ∧ '\x7b' ∉ (wholeDigits cs).1 := by
  refine ⟨?_, fun hmem => ne_brace_of_isDigit (isDigit_of_mem_wholeDigits hmem) rfl⟩
  fun_cases wholeDigits cs with
  | case1 r => rfl
  | case2 cs _ => exact List.takeWhile_append_dropWhile.symm

/-- A fraction and what follows it make up the text, and the fraction holds no brace. -/
theorem fractionPart_split (cs : List Char) :
    cs = (fractionPart cs).1 ++ (fractionPart cs).2 ∧ '\x7b' ∉ (fractionPart cs).1 := by
  fun_cases fractionPart cs with
  | case1 d r hd =>
      refine ⟨?_, fun hmem => ?_⟩
      · rw [List.cons_append, List.cons_append, List.takeWhile_append_dropWhile]
      · rcases List.mem_cons.mp hmem with hpoint | hmem
        · exact absurd hpoint (by decide)
        rcases List.mem_cons.mp hmem with rfl | hmem
        · exact ne_brace_of_isDigit hd rfl
        · exact ne_brace_of_isDigit (List.mem_takeWhile_imp hmem) rfl
  | case2 d r hd => exact ⟨rfl, List.not_mem_nil⟩
  | case3 cs _ => exact ⟨rfl, List.not_mem_nil⟩

/-- An exponent and what follows it make up the text, and the exponent holds no brace. -/
theorem exponentPart_split (cs : List Char) :
    cs = (exponentPart cs).1 ++ (exponentPart cs).2 ∧ '\x7b' ∉ (exponentPart cs).1 := by
  fun_cases exponentPart cs with
  | case1 e r he sign ds hsign exponent hempty => exact ⟨rfl, List.not_mem_nil⟩
  | case2 e r he sign ds hsign exponent hempty =>
      have hr : r = sign ++ ds ∧ '\x7b' ∉ sign := by
        split at hsign
        all_goals
          obtain ⟨rfl, rfl⟩ := Prod.mk.inj hsign
          exact ⟨rfl, by simp⟩
      refine ⟨?_, fun hmem => ?_⟩
      · rw [hr.1, List.cons_append, List.cons_append, List.append_assoc,
          List.takeWhile_append_dropWhile]
      rw [List.cons_append] at hmem
      rcases List.mem_cons.mp hmem with rfl | hmem
      · exact absurd he (by decide)
      rcases List.mem_append.mp hmem with hmem | hmem
      · exact hr.2 hmem
      · exact ne_brace_of_isDigit (List.mem_takeWhile_imp hmem) rfl
  | case3 e r he => exact ⟨rfl, List.not_mem_nil⟩
  | case4 => exact ⟨rfl, List.not_mem_nil⟩

/-- **A scalar is read** from characters that are no braces. -/
theorem scalar_split {cs : List Char} {j : Json LooseText} {rest : List Char}
    (h : scalar limit cs = .ok (j, rest)) : ∃ read, cs = read ++ rest ∧ '\x7b' ∉ read := by
  rw [scalar] at h
  split at h
  · rename_i out hnamed
    obtain rfl := Except.ok.inj h
    rw [named?] at hnamed
    obtain ⟨⟨word, v⟩, hmem, hafter⟩ := List.exists_of_findSome?_eq_some hnamed
    simp only [after?, Option.map_eq_some_iff] at hafter
    obtain ⟨rest', hafter, heq⟩ := hafter
    obtain rfl := (Prod.mk.inj heq).2
    split at hafter
    · rename_i hprefix
      obtain ⟨tail, rfl⟩ := List.isPrefixOf_iff_prefix.mp hprefix
      obtain rfl := Option.some.inj hafter
      refine ⟨word.toList, ?_, ?_⟩
      · rw [← String.length_toList, List.drop_left]
      · have hnames : ∀ w ∈ names.map Prod.fst, '\x7b' ∉ w.toList := by
          have hlist : names.map Prod.fst =
              ["null", "true", "false", "NaN", "Infinity", "-Infinity"] := rfl
          rw [hlist]
          simp
        exact hnames word (List.mem_map_of_mem (f := Prod.fst) hmem)
    · cases hafter
  · obtain ⟨negative, unsigned, rfl, rfl, -⟩ := of_number_eq_ok h
    have hwhole := wholeDigits_split unsigned
    have hfraction := fractionPart_split (wholeDigits unsigned).2
    have hexponent := exponentPart_split (fractionPart (wholeDigits unsigned).2).2
    refine ⟨signed negative ((wholeDigits unsigned).1 ++
      ((fractionPart (wholeDigits unsigned).2).1 ++
        (exponentPart (fractionPart (wholeDigits unsigned).2).2).1)), ?_, ?_⟩
    · rw [signed_append, List.append_assoc, List.append_assoc, ← hexponent.1, ← hfraction.1,
        ← hwhole.1]
    · have hunsigned : '\x7b' ∉ (wholeDigits unsigned).1 ++
          ((fractionPart (wholeDigits unsigned).2).1 ++
            (exponentPart (fractionPart (wholeDigits unsigned).2).2).1) := by
        rw [List.mem_append, List.mem_append, not_or, not_or]
        exact ⟨hwhole.2, hfraction.2, hexponent.2⟩
      cases negative with
      | false => exact hunsigned
      | true =>
          rw [signed, if_pos rfl, List.mem_cons, not_or]
          exact ⟨by decide, hunsigned⟩

/-! ### A line behind a fragment -/

section Glued

variable {r : List Char}

/-- An end of a text with another first character is an end of its rest. -/
theorem suffix_tail {c d : Char} {line cs : List Char} (hne : c ≠ d)
    (h : (c :: line) <:+ d :: cs) : (c :: line) <:+ cs := by
  rcases List.suffix_cons_iff.mp h with heq | h
  · exact absurd (List.cons.inj heq).1 hne
  · exact h

/-- An end of a text that begins with a brace is not touched by skipping white space. -/
theorem suffix_skip {line cs : List Char} (h : ('\x7b' :: line) <:+ cs) :
    ('\x7b' :: line) <:+ skip cs := by
  refine suffix_of_read (List.takeWhile_append_dropWhile (p := isSpace)).symm (fun hmem => ?_) h
  exact absurd (List.mem_takeWhile_imp hmem) (by decide)

/-- No hexadecimal digit is a brace. -/
theorem ne_brace_of_unit? {a b c d : Char} {n : Nat} (h : unit? a b c d = some n) :
    '\x7b' ≠ a ∧ '\x7b' ≠ b ∧ '\x7b' ≠ c ∧ '\x7b' ≠ d := by
  have hbrace : Decimal.digitIn? 16 '\x7b' = none := by decide
  simp only [unit?, Option.bind_eq_bind, Option.bind_eq_some_iff] at h
  obtain ⟨w, ha, x, hb, y, hc, z, hd, -⟩ := h
  refine ⟨?_, ?_, ?_, ?_⟩
  all_goals
    rintro rfl
    simp_all

/-- Behind a text that has begun before a line, the text ends with the first quote of the line at
the latest. -/
theorem units?_suffix {cs : List Char} {ns : List Nat} {rest : List Char}
    (h : units? cs = some (ns, rest)) (hline : ('\x7b' :: '"' :: 'c' :: r) <:+ cs) :
    ('\x7b' :: '"' :: 'c' :: r) <:+ rest ∨ rest = 'c' :: r := by
  fun_induction units? cs generalizing ns with
  | case1 => cases h
  | case2 s =>
      obtain ⟨-, rfl⟩ := Prod.mk.inj (Option.some.inj h)
      exact Or.inl (suffix_tail (by decide) hline)
  | case3 a b c d s n ns' rest' hunits hunit ih =>
      obtain ⟨-, rfl⟩ := Prod.mk.inj (Option.some.inj h)
      obtain ⟨ha, hb, hc, hd⟩ := ne_brace_of_unit? hunit
      have hs := suffix_tail hd (suffix_tail hc (suffix_tail hb (suffix_tail ha
        (suffix_tail (by decide) (suffix_tail (by decide) hline)))))
      exact ih hunits hs
  | case5 e s hnot n ns' rest' hunits hescape ih =>
      obtain ⟨-, rfl⟩ := Prod.mk.inj (Option.some.inj h)
      have he : '\x7b' ≠ e := by
        rintro rfl
        have hnone : escape? '\x7b' = none := by decide
        rw [hnone] at hescape
        cases hescape
      exact ih hunits (suffix_tail he (suffix_tail (by decide) hline))
  | case8 c s hquote hunit hescape hplain ns' rest' hunits ih =>
      obtain ⟨-, rfl⟩ := Prod.mk.inj (Option.some.inj h)
      rcases List.suffix_cons_iff.mp hline with heq | hs
      · obtain ⟨-, rfl⟩ := List.cons.inj heq
        rw [units?] at hunits
        exact Or.inr (Prod.mk.inj (Option.some.inj hunits)).2.symm
      · exact ih hunits hs
  | case4 | case6 | case7 | case9 => cases h

/-- Reading a text string does not run over the beginning of a line: either the line is still ahead,
or the string ended at the quote behind its brace. -/
theorem string?_suffix {cs : List Char} {s : LooseText} {rest : List Char}
    (h : string? cs = some (s, rest)) (hline : ('\x7b' :: '"' :: 'c' :: r) <:+ cs) :
    ('\x7b' :: '"' :: 'c' :: r) <:+ rest ∨ rest = 'c' :: r := by
  rw [string?, Option.map_eq_some_iff] at h
  obtain ⟨⟨ns, rest'⟩, hunits, heq⟩ := h
  obtain ⟨-, rfl⟩ := Prod.mk.inj heq
  exact units?_suffix hunits hline

/-- **A line is not read from before it**: what begins before a line leaves the line, or the part
of it behind its first quote, unless it is the line itself. -/
theorem suffix_of_ok (hwhole : ∀ n out, value limit n ('\x7b' :: '"' :: 'c' :: r) = .ok out →
      out.2 = []) (fuel : Nat) :
    (∀ cs j rest, value limit fuel cs = .ok (j, rest) → ('\x7b' :: '"' :: 'c' :: r) <:+ cs →
      ('\x7b' :: '"' :: 'c' :: r) <:+ rest ∨ rest = 'c' :: r ∨
        cs = '\x7b' :: '"' :: 'c' :: r ∧ rest = []) ∧
    (∀ cs items rest, elements limit fuel cs = .ok (items, rest) →
      ('\x7b' :: '"' :: 'c' :: r) <:+ cs → ('\x7b' :: '"' :: 'c' :: r) <:+ rest) ∧
    (∀ known cs fields rest, members limit fuel known cs = .ok (fields, rest) →
      ('\x7b' :: '"' :: 'c' :: r) <:+ cs → ('\x7b' :: '"' :: 'c' :: r) <:+ rest) := by
  induction fuel with
  | zero =>
      refine ⟨fun cs j rest h => ?_, fun cs items rest h => ?_, fun known cs fields rest h => ?_⟩
      · cases h
      · cases h
      · cases h
  | succ fuel ih =>
      obtain ⟨ihvalue, ihelements, ihmembers⟩ := ih
      have hseparated : ∀ {cs j s rest d}, value limit fuel cs = .ok (j, rest) →
          ('\x7b' :: '"' :: 'c' :: r) <:+ cs → skip rest = d :: s → d ≠ 'c' → d ≠ '\x7b' →
          ('\x7b' :: '"' :: 'c' :: r) <:+ s := by
        intro cs j s rest d hvalue hcs hskip hletter hbrace
        rcases ihvalue cs j rest hvalue hcs with hrest | rfl | ⟨-, rfl⟩
        · have hleft := suffix_skip hrest
          rw [hskip] at hleft
          exact suffix_tail (Ne.symm hbrace) hleft
        · rw [skip_cons rfl] at hskip
          exact absurd (List.cons.inj hskip).1.symm hletter
        · cases hskip
      refine ⟨fun cs j rest h hcs => ?_, fun cs items rest h hcs => ?_,
        fun known cs fields rest h hcs => ?_⟩
      · have hread := h
        rw [value_succ_iff] at h
        rcases h with ⟨s, t, rest', rfl, hstring, hout⟩ | ⟨s, rfl, htail⟩ | ⟨s, rfl, htail⟩ |
          ⟨-, -, -, hscalar⟩
        · obtain ⟨-, rfl⟩ := Prod.mk.inj hout
          exact (string?_suffix hstring (suffix_tail (by decide) hcs)).imp_right Or.inl
        · have hs := suffix_skip (suffix_tail (by decide) hcs)
          rcases htail with ⟨rest', hclose, hout⟩ | ⟨-, items, rest', hitems, hout⟩
          · obtain ⟨-, rfl⟩ := Prod.mk.inj hout
            rw [hclose] at hs
            exact Or.inl (suffix_tail (by decide) hs)
          · obtain ⟨-, rfl⟩ := Prod.mk.inj hout
            exact Or.inl (ihelements _ _ _ hitems hs)
        · rcases List.suffix_cons_iff.mp hcs with heq | hs
          · rw [← heq] at hread
            exact Or.inr (Or.inr ⟨heq.symm, hwhole _ _ hread⟩)
          · have hskip := suffix_skip hs
            rcases htail with ⟨rest', hclose, hout⟩ | ⟨-, fields, rest', hfields, hout⟩
            · obtain ⟨-, rfl⟩ := Prod.mk.inj hout
              rw [hclose] at hskip
              exact Or.inl (suffix_tail (by decide) hskip)
            · obtain ⟨-, rfl⟩ := Prod.mk.inj hout
              exact Or.inl (ihmembers _ _ _ _ hfields hskip)
        · obtain ⟨read, hsplit, hbrace⟩ := scalar_split hscalar
          exact Or.inl (suffix_of_read hsplit hbrace hcs)
      · rw [elements_succ_iff] at h
        obtain ⟨item, s, hvalue, htail⟩ := h
        obtain ⟨s', items', rest', hcomma, hmore, hout⟩ | ⟨rest', hclose, hout⟩ := htail
        · obtain ⟨-, rfl⟩ := Prod.mk.inj hout
          have hs := hseparated hvalue hcs hcomma (by decide) (by decide)
          exact ihelements _ _ _ hmore (suffix_skip hs)
        · obtain ⟨-, rfl⟩ := Prod.mk.inj hout
          exact hseparated hvalue hcs hclose (by decide) (by decide)
      · rw [members_succ_iff] at h
        obtain ⟨s, name, s₁, s₂, v, s₃, rfl, hname, hcolon, hvalue, htail⟩ := h
        have hs := suffix_tail (by decide) hcs
        have hs₂ : ('\x7b' :: '"' :: 'c' :: r) <:+ s₂ := by
          rcases string?_suffix hname hs with hs₁ | rfl
          · have hleft := suffix_skip hs₁
            rw [hcolon] at hleft
            exact suffix_tail (by decide) hleft
          · rw [skip_cons rfl] at hcolon
            exact absurd (List.cons.inj hcolon).1 (by decide)
        rcases htail with ⟨s₄, hcomma, hmore⟩ | ⟨rest', hclose, hout⟩
        · have hs₄ := hseparated hvalue (suffix_skip hs₂) hcomma (by decide) (by decide)
          exact ihmembers _ _ _ _ hmore (suffix_skip hs₄)
        · obtain ⟨-, rfl⟩ := Prod.mk.inj hout
          exact hseparated hvalue (suffix_skip hs₂) hclose (by decide) (by decide)

/-- **No text that goes on with a line is a value**. -/
theorem parse_ne_ok {j : Json LooseText}
    (hwrites : Writes ('\x7b' :: '"' :: 'c' :: r) j) {f : List Char}
    (hf : ∀ c ∈ f.head?, isSpace c = false) (hne : f ≠ []) (v : Json LooseText) :
    parse (String.ofList (f ++ '\x7b' :: '"' :: 'c' :: r)) ≠ .ok v := by
  intro hparse
  obtain ⟨c, s, rfl⟩ := List.exists_cons_of_ne_nil hne
  have hc : isSpace c = false := hf c rfl
  rw [parse, parseWith, String.toList_ofList, List.cons_append, skip_cons hc] at hparse
  split at hparse
  · cases hparse
  · rename_i v' rest hread
    have hwhole : ∀ n out, value (some Decimal.digitLimit) n ('\x7b' :: '"' :: 'c' :: r) = .ok out →
        out.2 = [] := by
      intro n out hout
      have hline := @Writes.reads _ _ hwrites _ [] (Nat.le_refl _)
        (fun _ h => absurd h (Option.not_mem_none _))
      rw [List.append_nil] at hline
      rw [value_unique hout hline]
    have hsuffix : ('\x7b' :: '"' :: 'c' :: r) <:+ c :: (s ++ '\x7b' :: '"' :: 'c' :: r) :=
      ⟨c :: s, rfl⟩
    split at hparse
    · rename_i hempty
      have hskip : skip rest = [] := List.isEmpty_iff.mp hempty
      rcases (suffix_of_ok hwhole _).1 _ _ _ hread hsuffix with hrest | rfl | ⟨heq, -⟩
      · have hleft := suffix_skip hrest
        rw [hskip, List.suffix_nil] at hleft
        cases hleft
      · rw [skip_cons rfl] at hskip
        cases hskip
      · have hlength := congrArg List.length heq
        simp only [List.length_cons, List.length_append] at hlength
        omega
    · cases hparse

end Glued

end Json

end SheetFormula
