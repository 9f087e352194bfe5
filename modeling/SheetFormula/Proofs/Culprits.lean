import Mathlib.Data.List.DropRight
import SheetFormula.Fault.Basic
import SheetFormula.Proofs.Acceptance

/-!
# The Character That Stops the Reader

A text that cannot be cut into tokens has one culprit: the first character at which the
reader, on its way through the formula, finds neither a lexeme nor white space. It is the
first character that does not fit before what follows it.

The position that is reported counts the characters before the culprit in its line, and the
sign of equality. It does not count the white space before the formula nor the lines before
that of the culprit, so it is the index of the culprit only where there are none of these.

## Main results

* `Lexeme.stuck_iff`: the reader is **stuck at one place**, where it leaves the text.
* `Lexeme.scan_rest_iff`: that place is the first character that does not fit.
* `culpritAt_iff_unfit`: so the culprit is found without following the reader.
* `position_eq_culprit_iff`: **when the reported position is that of the culprit**.
* `position_ne_culprit`: white space before a formula, or a line feed in it, and it is not.
-/

namespace SheetFormula

namespace Lexeme

/-! ### The place where the reader is stuck -/

variable {cs rest r : List Char} {c : Char}

/-- What is left of a text is left of each rest that the reader reaches. -/
theorem Reaches.scan_eq (h : Reaches cs rest) : (scan cs).2 = (scan rest).2 := by
  induction h with
  | refl cs => rfl
  | space hc _ ih => rw [scan_space hc, ih]
  | lexeme hnext _ ih => rw [scan_of_next? hnext, ih]

/-- Where the lexer is stuck it cuts nothing. -/
theorem Stuck.scan_eq (h : Stuck c r) : scan (c :: r) = ([], c :: r) :=
  scan_stuck (Bool.eq_false_iff.mp h.1) h.2

/-- **The reader is stuck at one place**, where it leaves the text. -/
theorem stuck_iff : Reaches cs (c :: r) ∧ Stuck c r ↔ (scan cs).2 = c :: r := by
  constructor
  · rintro ⟨hreach, hstuck⟩
    rw [hreach.scan_eq, hstuck.scan_eq]
  · intro h
    exact ⟨h ▸ reaches_scan cs, stuck_of_scan h⟩

/-- A text that fits up to some character reaches no further than to any that does not. -/
theorem Fits.length_le {us vs r s : List Char} {c d : Char} (hus : Fits us (c :: r))
    (hd : ¬ Fits [d] s) (heq : us ++ c :: r = vs ++ d :: s) : us.length ≤ vs.length := by
  obtain ⟨ws, hvs, -⟩ | ⟨ws, rfl, hrest⟩ := List.append_eq_append_iff.mp heq
  · rw [hvs, List.length_append]
    exact Nat.le_add_right _ _
  · cases ws with
    | nil => simp
    | cons w ws =>
        obtain ⟨rfl, rfl⟩ := List.cons.inj hrest
        exact absurd (fits_cons_iff.mp ((fits_append_iff vs (d :: ws)).mp hus).2).1 hd

/-- **The reader leaves a text at the first character that does not fit.** -/
theorem scan_rest_iff : (scan cs).2 = c :: r ↔
    ∃ read, cs = read ++ c :: r ∧ Fits read (c :: r) ∧ ¬ Fits [c] r := by
  refine ⟨exists_unfit, ?_⟩
  rintro ⟨read, rfl, hread, hc⟩
  cases hrest : (scan (read ++ c :: r)).2 with
  | nil =>
      have hfits := readable_iff_fits.mp (scan_complete_iff.mp hrest)
      exact absurd hfits (not_fits_append hc read)
  | cons d s =>
      obtain ⟨read', heq, hread', hd⟩ := exists_unfit hrest
      have hlength := Nat.le_antisymm (hread.length_le hd heq) (hread'.length_le hc heq.symm)
      exact (List.append_inj heq hlength).2.symm

end Lexeme

/-! ### Where a formula stands in its text -/

/-- The white space before a formula. -/
def leadingBlanks (text : String) : List Char := text.toList.takeWhile Text.isBlank

/-- The sign of equality before a formula, if it is there. -/
def equalsMark (text : String) : List Char := if (formulaChars text).1 then ['='] else []

/-- A text is the white space before the formula, the sign of equality, the formula and
whatever stands behind it. -/
theorem toList_eq_append (text : String) : ∃ trail,
    text.toList = leadingBlanks text ++ (equalsMark text ++ ((formulaChars text).2 ++ trail)) := by
  obtain ⟨trail, htrail⟩ : Text.trimBlanks text.toList <+: text.toList.dropWhile Text.isBlank :=
    List.rdropWhile_prefix Text.isBlank _
  refine ⟨trail, ?_⟩
  have hformula : equalsMark text ++ (formulaChars text).2 = Text.trimBlanks text.toList := by
    rw [equalsMark, formulaChars]
    split
    · rename_i r heq
      rw [heq]
      rfl
    · rfl
  rw [← List.append_assoc (equalsMark text), hformula, htrail]
  exact List.takeWhile_append_dropWhile.symm

/-- The mark in front of a formula is one character, if it is there. -/
theorem length_equalsMark (text : String) :
    (equalsMark text).length = if (formulaChars text).1 then 1 else 0 := by
  rw [equalsMark]
  split <;> rfl

/-- The mark in front of a formula ends no line. -/
theorem lineFeed_notMem_equalsMark (text : String) : '\n' ∉ equalsMark text := by
  rw [equalsMark]
  split <;> decide

/-! ### The position that is reported -/

namespace Site

/-- The site of a text that is not cut into tokens is where the reader leaves its formula. -/
theorem of_tokenize {text : String} {s : Site} (h : tokenize text = .error s) :
    formulaChars text = (s.marked, s.read ++ s.char :: s.rest) ∧
      (Lexeme.scan (formulaChars text).2).2 = s.char :: s.rest := by
  obtain ⟨marked, cs, hchars⟩ : ∃ marked cs, formulaChars text = (marked, cs) := ⟨_, _, rfl⟩
  rw [tokenize, hchars] at h
  dsimp only at h
  split at h
  · cases h
  · rename_i lexemes c rest hscan
    have hrest : (Lexeme.scan cs).2 = c :: rest := congrArg Prod.snd hscan
    obtain ⟨read, rfl, -⟩ := Lexeme.exists_unfit hrest
    rw [List.length_append, List.length_cons, Nat.add_sub_cancel, List.take_left] at h
    cases h
    rw [hchars]
    exact ⟨rfl, hrest⟩

/-- The last line of a text is its end. -/
theorem lastLine_suffix (cs : List Char) : lastLine cs <:+ cs :=
  List.rtakeWhile_suffix (fun c => decide (c ≠ '\n')) cs

/-- The last line is the whole text when no line ends in it. -/
theorem length_lastLine_eq_iff {cs : List Char} :
    (lastLine cs).length = cs.length ↔ '\n' ∉ cs := by
  have hself : lastLine cs = cs ↔ '\n' ∉ cs := by
    refine List.rtakeWhile_eq_self_iff.trans ?_
    simp only [decide_eq_true_eq, ne_eq]
    exact List.forall_mem_ne'
  rw [← hself]
  exact ⟨(lastLine_suffix cs).eq_of_length, congrArg List.length⟩

end Site

/-! ### Culprits -/

/-- The **culprit** of a text stands at an index of it when the reader, on its way through the
formula, is stuck there. -/
def CulpritAt (text : String) (i : Nat) : Prop :=
  ∃ read c rest, (formulaChars text).2 = read ++ c :: rest ∧
    Lexeme.Reaches (formulaChars text).2 (c :: rest) ∧ Lexeme.Stuck c rest ∧
    i = (leadingBlanks text ++ (equalsMark text ++ read)).length

/-- **A text has one culprit**, behind all that was read. -/
theorem culpritAt_iff {text : String} {s : Site} (h : tokenize text = .error s) {i : Nat} :
    CulpritAt text i ↔ i = (leadingBlanks text ++ (equalsMark text ++ s.read)).length := by
  obtain ⟨hchars, hscan⟩ := Site.of_tokenize h
  have hread : (formulaChars text).2 = s.read ++ s.char :: s.rest := congrArg Prod.snd hchars
  constructor
  · rintro ⟨read, c, rest, heq, hreach, hstuck, rfl⟩
    have hsame := (Lexeme.stuck_iff.mp ⟨hreach, hstuck⟩).symm.trans hscan
    rw [hread, ← hsame] at heq
    rw [List.append_cancel_right heq]
  · rintro rfl
    obtain ⟨hreach, hstuck⟩ := Lexeme.stuck_iff.mpr hscan
    exact ⟨s.read, s.char, s.rest, hread, hreach, hstuck, rfl⟩

/-- **The culprit is the first character of the formula that does not fit**: one outside of
the alphabet, or a point without a digit behind it. -/
theorem culpritAt_iff_unfit {text : String} {i : Nat} :
    CulpritAt text i ↔ ∃ read c rest, (formulaChars text).2 = read ++ c :: rest ∧
      Lexeme.Fits read (c :: rest) ∧ ¬ Lexeme.Fits [c] rest ∧
      i = (leadingBlanks text ++ (equalsMark text ++ read)).length := by
  constructor
  · rintro ⟨read, c, rest, heq, hreach, hstuck, rfl⟩
    obtain ⟨read', heq', hread', hc⟩ :=
      Lexeme.scan_rest_iff.mp (Lexeme.stuck_iff.mp ⟨hreach, hstuck⟩)
    obtain rfl := List.append_cancel_right (heq.symm.trans heq')
    exact ⟨read, c, rest, heq, hread', hc, rfl⟩
  · rintro ⟨read, c, rest, heq, hread, hc, rfl⟩
    obtain ⟨hreach, hstuck⟩ :=
      Lexeme.stuck_iff.mpr (Lexeme.scan_rest_iff.mpr ⟨read, heq, hread, hc⟩)
    exact ⟨read, c, rest, heq, hreach, hstuck, rfl⟩

/-- **When the reported position is that of the culprit**: exactly when no white space stands
before the formula and no line feed before the culprit. It is never behind the culprit. -/
theorem position_eq_culprit_iff {text : String} {s : Site} (h : tokenize text = .error s) :
    ∃ i, (∀ j, CulpritAt text j ↔ j = i) ∧ text.toList[i]? = some s.char ∧
      (Fault.unreadable s).report.details = [.position (.whole s.position)] ∧
      s.position ≤ i ∧
      (s.position = i ↔ leadingBlanks text = [] ∧ '\n' ∉ text.toList.take i) := by
  obtain ⟨hchars, -⟩ := Site.of_tokenize h
  obtain ⟨trail, htext⟩ := toList_eq_append text
  obtain ⟨front, hfront⟩ : ∃ front, front = leadingBlanks text ++ (equalsMark text ++ s.read) :=
    ⟨_, rfl⟩
  have hsplit : text.toList = front ++ s.char :: (s.rest ++ trail) := by
    rw [htext, hchars, hfront]
    simp only [List.append_assoc, List.cons_append]
  have hlength : front.length =
      (leadingBlanks text).length + (if s.marked then 1 else 0) + s.read.length := by
    rw [hfront, List.length_append, List.length_append, length_equalsMark, hchars, Nat.add_assoc]
  have hposition : s.position = (Site.lastLine s.read).length + (if s.marked then 1 else 0) := rfl
  have hline := (Site.lastLine_suffix s.read).length_le
  have hfeed : leadingBlanks text = [] → ('\n' ∉ front ↔ '\n' ∉ s.read) := by
    intro hnone
    rw [hfront, hnone, List.nil_append, List.mem_append, not_or]
    exact and_iff_right (lineFeed_notMem_equalsMark text)
  refine ⟨front.length, fun j => hfront ▸ culpritAt_iff h, ?_, rfl, by omega, ?_⟩
  · rw [hsplit, List.getElem?_append_right (Nat.le_refl _), Nat.sub_self]
    rfl
  · rw [hsplit, List.take_left' rfl, and_congr_right hfeed, ← Site.length_lastLine_eq_iff,
      ← List.length_eq_zero_iff]
    omega

/-- The sign of equality is counted: the culprit of `=1 $` is at 3, and so it is reported. -/
theorem position_eq_culprit_iff_marked : ∃ s, tokenize "=1 $" = .error s ∧ s.position = 3 ∧
    ∀ i, CulpritAt "=1 $" i ↔ i = 3 := by
  have htokens : tokenize "=1 $" =
      .error ⟨['1', ' '], '$', [], some ⟨.number, ['1']⟩, true⟩ := by cbv
  obtain ⟨i, hculprit, -, -, -, hposition⟩ := position_eq_culprit_iff htokens
  obtain rfl : 3 = i := (hculprit 3).mp ((culpritAt_iff htokens).mpr rfl)
  exact ⟨_, htokens, hposition.mpr ⟨rfl, by decide⟩, hculprit⟩

/-- White space before the formula is not counted, nor are the lines before that of the
culprit: the culprits of ` $` and of `1`, line feed, `$` are at 1 and at 2, and both are
reported at 0. -/
theorem position_ne_culprit :
    (∃ s, tokenize " $" = .error s ∧ s.position = 0 ∧ ∀ i, CulpritAt " $" i ↔ i = 1) ∧
    ∃ s, tokenize "1\n$" = .error s ∧ s.position = 0 ∧ ∀ i, CulpritAt "1\n$" i ↔ i = 2 := by
  have hspace : tokenize " $" = .error ⟨[], '$', [], none, false⟩ := by cbv
  have hfeed : tokenize "1\n$" =
      .error ⟨['1', '\n'], '$', [], some ⟨.number, ['1']⟩, false⟩ := by cbv
  exact ⟨⟨_, hspace, rfl, fun i => culpritAt_iff hspace⟩, _, hfeed, rfl,
    fun i => culpritAt_iff hfeed⟩

end SheetFormula
