import SheetFormula.Proofs.Acceptance

/-!
# Tokens Written Out With Gaps

Tokens can be written one after another and read back, as long as white space stands between
them. A token whose text is of the class of its kind is one lexeme when it stands alone, and
no lexeme goes on into white space. A name that begins like a reference would be cut in two:
it is no text of its class, and no text has it for a token.

## Main results

* `Terminal.Matches.next?_eq`: **a text of a terminal is one lexeme** when it stands alone.
* `Token.prints_joined`: tokens with gaps between them print themselves.
* `tokenize_joined`: **tokens written out are read back**, and only such tokens are read.
-/

namespace SheetFormula

/-! ### One lexeme -/

namespace Lexeme

open Text (isDigit)

/-- **A name is one lexeme** unless it begins like a reference. -/
theorem next?_name {c : Char} {r : List Char} (hc : isNameStart c = true)
    (hr : ∀ d ∈ r, isNamePart d = true)
    (hhead : isCapital c = true → ∀ d ∈ r.head?, isDigit d = false) :
    next? (c :: r) = some (⟨.name, c :: r⟩, []) := by
  have hreference : (isCapital c && r.head?.any isDigit) = false := by
    rw [Bool.and_eq_false_imp]
    intro hcapital
    cases r with
    | nil => rfl
    | cons d s => exact hhead hcapital d rfl
  rw [next?, hreference, if_neg (by decide), if_pos hc, List.takeWhile_eq_self_iff.mpr hr,
    List.dropWhile_eq_nil_iff.mpr hr]

/-- **A point with digits behind it is one lexeme.** -/
theorem next?_point {f : Char} {r : List Char} (hfs : ∀ c ∈ f :: r, isDigit c = true) :
    next? ('.' :: f :: r) = some (⟨.number, '.' :: f :: r⟩, []) := by
  have hr : ∀ c ∈ r, isDigit c = true := fun c hc => hfs c (List.mem_cons_of_mem f hc)
  have hfraction : fraction ('.' :: f :: r) = ('.' :: f :: r, []) := by
    rw [fraction_point (hfs f List.mem_cons_self), List.takeWhile_eq_self_iff.mpr hr,
      List.dropWhile_eq_nil_iff.mpr hr]
  rw [next?, show isCapital '.' = false from rfl, Bool.false_and, if_neg (by decide),
    if_neg (by decide), if_neg (by decide), if_neg (by decide), if_neg (by decide),
    if_neg (by decide), if_neg (by decide), hfraction]

end Lexeme

open Lexeme in
/-- **A text of a terminal is one lexeme** when it stands alone. -/
theorem Terminal.Matches.next?_eq {m : Terminal} {cs : List Char} (h : m.Matches cs) :
    next? cs = some (⟨m, cs⟩, []) := by
  cases m with
  | cellReference =>
      obtain ⟨c, ds, rfl, hc, hds⟩ := h
      have hend : ∀ c ∈ ([] : List Char).head?, Text.isDigit c = false := by simp
      simpa using next?_reference hc hds hend
  | name =>
      obtain ⟨c, r, rfl, hc, hr, hhead⟩ := h
      exact next?_name hc hr hhead
  | number =>
      obtain ⟨ds, fs, rfl, hds, hfs, hne⟩ := h
      cases ds with
      | cons d s =>
          have hend : EndsNumber [] := by simp [EndsNumber]
          simpa using next?_number ⟨List.cons_ne_nil d s, hds⟩ hfs hend
      | nil =>
          obtain ⟨f, r, rfl⟩ := List.exists_cons_of_ne_nil hne
          exact next?_point hfs
  | openParen | closeParen | comma =>
      obtain rfl := h
      rfl
  | operator =>
      obtain ⟨c, rfl, hc⟩ := h
      simp only [isSign, Bool.or_eq_true, beq_iff_eq] at hc
      obtain ((rfl | rfl) | rfl) | rfl := hc <;> rfl

/-! ### Gaps -/

/-- The reader goes over all white space before a text. -/
theorem Lexeme.scan_spaces {gap : List Char} (hgap : ∀ c ∈ gap, isSpace c = true)
    (cs : List Char) : scan (gap ++ cs) = scan cs := by
  induction gap with
  | nil => rfl
  | cons c r ih =>
      rw [List.cons_append, scan_space (hgap c List.mem_cons_self)]
      exact ih fun d hd => hgap d (List.mem_cons_of_mem c hd)

/-- A **gap** is white space between two tokens. -/
structure Gap where
  chars : List Char
  ne_nil : chars ≠ []
  isSpace : ∀ c ∈ chars, Lexeme.isSpace c = true

namespace Token

open Lexeme (Tight Stops)
open Formula (Prints)

/-- Tokens **written out** with gaps between them, the first gap behind the first token. -/
def joined (gap : Nat → Gap) : List Token → List Char
  | [] => []
  | [t] => t.text.toList
  | t :: u :: ts => t.text.toList ++ ((gap 0).chars ++ joined (fun i => gap (i + 1)) (u :: ts))

/-- The text of a token that is spelled prints the token. -/
theorem Spelled.prints {t : Token} (h : t.Spelled) : Prints t.text.toList [t] := by
  obtain ⟨m, hm, hmatch⟩ := h
  refine ⟨[⟨m, t.text.toList⟩], ?_, ?_⟩
  · rw [Lexeme.Lexes, Lexeme.scan_of_next? hmatch.next?_eq, Lexeme.scan_nil]
  · rw [List.map_singleton, Lexeme.token, hm, String.ofList_toList]

/-- The text of a token that is spelled is tight. -/
theorem Spelled.tight {t : Token} (h : t.Spelled) : Tight t.text.toList := by
  obtain ⟨m, -, hmatch⟩ := h
  exact Lexeme.tight_of_forall (Lexeme.chars_ne_nil hmatch.next?_eq) hmatch.firm

/-- **A token is spelled** exactly when its text, read alone, gives the token. -/
theorem spelled_iff {t : Token} :
    t.Spelled ↔ (Lexeme.next? t.text.toList).map (fun p => (p.1.token, p.2)) = some (t, []) := by
  constructor
  · rintro ⟨m, hm, hmatch⟩
    rw [hmatch.next?_eq, Option.map_some, Lexeme.token, hm, String.ofList_toList]
  · intro h
    obtain ⟨⟨l, rest⟩, hnext, heq⟩ := Option.map_eq_some_iff.mp h
    obtain ⟨htoken, rfl⟩ := Prod.mk.inj heq
    have hchars := Lexeme.text_append_rest hnext
    rw [List.append_nil] at hchars
    refine ⟨l.terminal, congrArg Token.kind htoken, ?_⟩
    rw [← hchars]
    exact Lexeme.matches_of_next? hnext

instance : DecidablePred Spelled := fun _ => decidable_of_iff _ spelled_iff.symm

/-- White space before a text prints nothing. -/
theorem prints_spaces_iff {gap cs : List Char} {ts : List Token}
    (hgap : ∀ c ∈ gap, Lexeme.isSpace c = true) : Prints (gap ++ cs) ts ↔ Prints cs ts := by
  simp only [Prints, Lexeme.Lexes, Lexeme.scan_spaces hgap]

/-- No lexeme goes on into a gap. -/
theorem stops_gap (gap : Gap) (cs : List Char) : Stops (gap.chars ++ cs) := by
  obtain ⟨c, r, hchars⟩ := List.exists_cons_of_ne_nil gap.ne_nil
  have hc := gap.isSpace c (by rw [hchars]; exact List.mem_cons_self)
  intro d hd
  rw [hchars] at hd
  obtain rfl : c = d := Option.some.inj hd
  simp only [Lexeme.isSpace, Bool.or_eq_true, beq_iff_eq] at hc
  obtain (((rfl | rfl) | rfl) | rfl) | rfl := hc <;> decide

variable {ts : List Token}

/-- **Tokens with gaps between them print themselves.** -/
theorem prints_joined (hts : ∀ t ∈ ts, t.Spelled) (gap : Nat → Gap) :
    Prints (joined gap ts) ts := by
  induction ts generalizing gap with
  | nil => exact Formula.prints_nil
  | cons t r ih =>
      have ht := (hts t List.mem_cons_self).prints
      cases r with
      | nil => exact ht
      | cons u ts =>
          have hrest := ih (fun v hv => hts v (List.mem_cons_of_mem t hv)) fun i => gap (i + 1)
          exact ht.append ((prints_spaces_iff (gap 0).isSpace).mpr hrest) (stops_gap (gap 0) _)

/-- Tokens written out have firm ends. -/
theorem tight_joined (hts : ∀ t ∈ ts, t.Spelled) (hne : ts ≠ []) (gap : Nat → Gap) :
    Tight (joined gap ts) := by
  induction ts generalizing gap with
  | nil => exact absurd rfl hne
  | cons t r ih =>
      have ht := (hts t List.mem_cons_self).tight
      cases r with
      | nil => exact ht
      | cons u ts =>
          have hrest := ih (fun v hv => hts v (List.mem_cons_of_mem t hv)) (List.cons_ne_nil u ts)
            fun i => gap (i + 1)
          exact ht.between hrest (gap 0).chars

end Token

/-- **Tokens written out are read back**: when the text of each is of the class of its kind,
white space between them is enough, with or without a sign of equality. And whatever is read
from a text has texts of these classes. -/
theorem tokenize_joined (ts : List Token) :
    ((∀ t ∈ ts, t.Spelled) → ∀ gap : Nat → Gap,
      tokenize (String.ofList (Token.joined gap ts)) = .ok ts ∧
      tokenize (String.ofList ('=' :: Token.joined gap ts)) = .ok ts) ∧
    ∀ text, tokenize text = .ok ts → ∀ t ∈ ts, t.Spelled := by
  refine ⟨fun hts gap => ?_, fun text => spelled_of_tokenize⟩
  rw [Formula.tokenize_eq_ok_iff, Formula.tokenize_eq_ok_iff]
  by_cases hne : ts = []
  · subst hne
    have hsign : formulaChars (String.ofList ['=']) = (true, []) := by
      rw [formulaChars, String.toList_ofList]
      rfl
    rw [Token.joined, hsign]
    exact ⟨Formula.prints_nil, Formula.prints_nil⟩
  · have htight := Token.tight_joined hts hne gap
    have hprints := Token.prints_joined hts gap
    have halone : Lexeme.Tight (String.ofList (Token.joined gap ts)).toList := by
      rwa [String.toList_ofList]
    rw [htight.formulaChars_equals, halone.formulaChars, String.toList_ofList]
    exact ⟨hprints, hprints⟩

/-- Numbers, a name and a reference that would run together are read back from
`1 \n.5 \nB \nA1 \n2`. -/
theorem tokenize_joined_words : ∃ ts : List Token,
    ts = [⟨.number, "1"⟩, ⟨.number, ".5"⟩, ⟨.functionName, "B"⟩, ⟨.cellReference, "A1"⟩,
      ⟨.number, "2"⟩] ∧
    (∀ t ∈ ts, t.Spelled) ∧ tokenize "1 \n.5 \nB \nA1 \n2" = .ok ts ∧
    tokenize "=1 \n.5 \nB \nA1 \n2" = .ok ts := by
  obtain ⟨ts, hts⟩ : ∃ ts : List Token, ts = [⟨.number, "1"⟩, ⟨.number, ".5"⟩,
      ⟨.functionName, "B"⟩, ⟨.cellReference, "A1"⟩, ⟨.number, "2"⟩] := ⟨_, rfl⟩
  have hspelled : ∀ t ∈ ts, t.Spelled := by
    rw [hts]
    decide
  have hgap : ∀ c ∈ [' ', '\n'], Lexeme.isSpace c = true := by simp [Lexeme.isSpace]
  have hread := (tokenize_joined ts).1 hspelled fun _ => ⟨[' ', '\n'], by simp, hgap⟩
  refine ⟨ts, hts, hspelled, ?_⟩
  rw [hts] at hread ⊢
  exact hread

end SheetFormula
