import SheetFormula.Decimal.Read
import SheetFormula.Formula.Basic
import SheetFormula.Proofs.Lexing

/-!
# The Texts of Numbers in Formulas

The text of a number in a formula has one of three forms: a name, or digits with an optional
fraction, or such digits with an exponent behind them; the last two may have a minus sign.
Only the digits with an optional fraction are a number again when they are lexed. The
others hold a name or a sign, which is an operator there.

## Main results

* `Formula.isNumberText_numberText`: **the forms of the text of a number**.
* `Decimal.read?_of_plain`: digits with an optional fraction can be read.
-/

namespace SheetFormula

open Text (isDigit)
open Lexeme (AreDigits pointed)

namespace Decimal

/-! ### Digits -/

/-- What a natural number is written with are digits. -/
theorem isDigit_of_mem_toDigits {c : Char} {n : Nat} (h : c ∈ Nat.toDigits 10 n) :
    isDigit c = true := by
  have hc := Nat.isDigit_of_mem_toDigits (by decide) (by decide) h
  simpa [isDigit, Char.isDigit, Char.le_def] using hc

/-- A sequence of digits holds **decimal digits** only. -/
def Digits.AreDecimal (d : Digits) : Prop := ∀ c ∈ d.digits, isDigit c = true

/-- The digits of a coefficient are decimal digits. -/
theorem Digits.areDecimal_ofCoefficient (coefficient : Nat) (exponent : Int) :
    (Digits.ofCoefficient coefficient exponent).AreDecimal := by
  rw [Digits.ofCoefficient]
  split
  · intro c hc
    rw [List.mem_singleton.mp hc]
    decide
  · intro c hc
    have hmem := (List.dropWhile_suffix _).subset (List.mem_reverse.mp hc)
    exact isDigit_of_mem_toDigits (List.mem_reverse.mp hmem)

/-- The digits that a ratio is rounded to are decimal digits. -/
theorem Digits.areDecimal_toSignificant (count : Nat) (r : Ratio) :
    (Digits.toSignificant count r).AreDecimal := by
  rw [Digits.toSignificant]
  split
  · exact areDecimal_ofCoefficient _ _
  · exact areDecimal_ofCoefficient _ _

/-- The digits in a window are decimal, also where the sequence has ended. -/
theorem Digits.AreDecimal.window {d : Digits} (h : d.AreDecimal) (first : Int) (count : Nat) :
    ∀ c ∈ d.window first count, isDigit c = true := by
  intro c hc
  obtain ⟨k, -, rfl⟩ := List.mem_map.mp hc
  rw [digitAt]
  split
  · rw [List.getD_eq_getElem?_getD]
    cases hget : d.digits[(first + k).toNat]? with
    | none => rfl
    | some c => exact h c (List.mem_of_getElem? hget)
  · rfl

/-- A window on the digits has the width that is asked for. -/
theorem Digits.length_window (d : Digits) (first : Int) (count : Nat) :
    (d.window first count).length = count := by
  rw [window, List.length_map, List.length_range]

/-! ### The general layout -/

/-- The size of a number is written as digits with an optional fraction, and an exponent may
stand behind them. -/
theorem Layout.sizeText_general (n significand : Nat) (exponent : Int) :
    ∃ ds fs, AreDigits ds ∧ (∀ c ∈ fs, isDigit c = true) ∧
      ((Layout.general n).sizeText significand exponent = ds ++ pointed fs ∨
        ∃ e, (Layout.general n).sizeText significand exponent =
          ds ++ pointed fs ++ exponentText e) := by
  let d := Digits.toSignificant (max n 1) (Ratio.ofBinary significand exponent)
  let exponential := (Layout.general n).usesExponent d
  let point : Int := if exponential then 1 else d.point
  let first : Int := if point ≤ 0 then point - 1 else 0
  let last := (Layout.general n).lastPlace d exponential point
  have hd : d.AreDecimal := Digits.areDecimal_toSignificant _ _
  have hkeep : ∀ xs : List Char,
      (if xs.isEmpty && !(Layout.general n).keepPoint then [] else '.' :: xs) = pointed xs := by
    intro xs
    cases xs <;> rfl
  have hwhole : 0 < (point - first).toNat := by
    by_cases hpoint : point ≤ 0
    · have hfirst : first = point - 1 := if_pos hpoint
      omega
    · have hfirst : first = 0 := if_neg hpoint
      omega
  refine ⟨d.window first (point - first).toNat, d.window point (last - point).toNat,
    ⟨?_, hd.window _ _⟩, hd.window _ _, ?_⟩
  · rw [← List.length_pos_iff, Digits.length_window]
    exact hwhole
  · have htext : (Layout.general n).sizeText significand exponent =
        d.window first (point - first).toNat ++ pointed (d.window point (last - point).toNat) ++
          (if exponential then exponentText (d.point - 1) else []) := by
      simp only [sizeText, hkeep]
      rfl
    cases hexp : exponential with
    | true =>
        rw [hexp] at htext
        exact Or.inr ⟨_, htext⟩
    | false =>
        rw [hexp] at htext
        refine Or.inl (htext.trans ?_)
        exact List.append_nil _

/-- An exponent is the letter `e`, a sign and digits. -/
theorem Layout.exponentText_eq (e : Int) :
    ∃ c ds, Lexeme.isSign c = true ∧ Lexeme.isNamePart c = false ∧ AreDigits ds ∧
      exponentText e = 'e' :: c :: ds := by
  have hds : AreDigits (Nat.toDigits 10 e.natAbs) :=
    ⟨Nat.toDigits_ne_nil, fun c hc => isDigit_of_mem_toDigits hc⟩
  have htail : AreDigits (if (Nat.toDigits 10 e.natAbs).length < 2
      then '0' :: Nat.toDigits 10 e.natAbs else Nat.toDigits 10 e.natAbs) := by
    split
    · refine ⟨List.cons_ne_nil _ _, fun c hc => ?_⟩
      obtain rfl | hc := List.mem_cons.mp hc
      · rfl
      · exact hds.isDigit c hc
    · exact hds
  rw [exponentText]
  split
  · exact ⟨'-', _, rfl, rfl, htail, rfl⟩
  · exact ⟨'+', _, rfl, rfl, htail, rfl⟩

end Decimal

/-! ### Numbers as lexemes -/

namespace Lexeme

/-- Digits with an optional fraction. -/
def PlainChars (cs : List Char) : Prop :=
  ∃ ds fs, AreDigits ds ∧ (∀ c ∈ fs, isDigit c = true) ∧ cs = ds ++ pointed fs

/-- The end of a text ends a number. -/
theorem endsNumber_nil : EndsNumber [] := fun _ hc => by cases hc

/-- Digits with an optional fraction are one lexeme, a number. -/
theorem PlainChars.lexes {cs : List Char} (h : PlainChars cs) : Lexes cs [⟨.number, cs⟩] := by
  obtain ⟨ds, fs, hds, hfs, rfl⟩ := h
  have hnext := next?_number hds hfs endsNumber_nil
  rw [List.append_nil] at hnext
  rw [Lexes, scan_of_next? hnext, scan_nil]

/-- Digits are one number token. -/
theorem lexes_digits {ds : List Char} (hds : AreDigits ds) : Lexes ds [⟨.number, ds⟩] :=
  PlainChars.lexes ⟨ds, [], hds, by simp, (List.append_nil ds).symm⟩

/-- The text of NaN is a name. -/
theorem lexes_nan : Lexes ['n', 'a', 'n'] [⟨.name, ['n', 'a', 'n']⟩] := by
  have hnext : next? ['n', 'a', 'n'] = some (⟨.name, ['n', 'a', 'n']⟩, []) := rfl
  rw [Lexes, scan_of_next? hnext, scan_nil]

/-- The text of infinity is a name. -/
theorem lexes_inf : Lexes ['i', 'n', 'f'] [⟨.name, ['i', 'n', 'f']⟩] := by
  have hnext : next? ['i', 'n', 'f'] = some (⟨.name, ['i', 'n', 'f']⟩, []) := rfl
  rw [Lexes, scan_of_next? hnext, scan_nil]

/-- The letter of an exponent is a name, and the sign behind it an operator. -/
theorem lexes_exponent {ds fs : List Char} (hds : AreDigits ds)
    (hfs : ∀ c ∈ fs, isDigit c = true) (e : Int) :
    ∃ ls, Lexes (ds ++ pointed fs ++ Decimal.Layout.exponentText e) ls ∧ ⟨.name, ['e']⟩ ∈ ls := by
  obtain ⟨c, es, hc, hpart, hes, heq⟩ := Decimal.Layout.exponentText_eq e
  have hnumber : next? (ds ++ (pointed fs ++ 'e' :: c :: es)) =
      some (⟨.number, ds ++ pointed fs⟩, 'e' :: c :: es) := by
    refine next?_number hds hfs (fun d hd => ?_)
    obtain rfl : 'e' = d := Option.some.inj hd
    exact ⟨rfl, by decide⟩
  have hname : next? ('e' :: c :: es) = some (⟨.name, ['e']⟩, c :: es) := by
    have hstop : ¬ isNamePart c = true := by
      rw [hpart]
      decide
    have htake : (c :: es).takeWhile isNamePart = [] := List.takeWhile_cons_of_neg hstop
    have hdrop : (c :: es).dropWhile isNamePart = c :: es := List.dropWhile_cons_of_neg hstop
    have hcapital : isCapital 'e' = false := by decide
    rw [next?, hcapital, Bool.false_and, if_neg (by decide), if_pos (by decide), htake, hdrop]
  have htail : scan es = ([⟨.number, es⟩], []) := lexes_digits hes
  refine ⟨[⟨.number, ds ++ pointed fs⟩, ⟨.name, ['e']⟩, ⟨.operator, [c]⟩, ⟨.number, es⟩], ?_,
    by simp⟩
  rw [Lexes, heq, List.append_assoc, scan_of_next? hnumber, scan_of_next? hname, scan_sign hc,
    htail]

end Lexeme

/-! ### Reading plain numbers -/

namespace Decimal

open Text (asciiDigits forall_isDigit digitChar)

/-- The characters of plain numbers. -/
def IsPlainChar (c : Char) : Prop := isDigit c = true ∨ c = '.'

/-- What holds of the point and of the ten digits holds of the characters of plain numbers. -/
theorem forall_isPlainChar {P : Char → Prop} (hpoint : P '.') (hdigits : ∀ n < 10, P (digitChar n))
    {c : Char} (hc : IsPlainChar c) : P c := by
  obtain hc | rfl := hc
  · exact forall_isDigit hdigits hc
  · exact hpoint

/-- Digits with a fraction are written with the characters of plain numbers. -/
theorem isPlainChar_of_mem {ds fs : List Char} (hds : ∀ c ∈ ds, isDigit c = true)
    (hfs : ∀ c ∈ fs, isDigit c = true) : ∀ c ∈ ds ++ pointed fs, IsPlainChar c := by
  intro c hc
  obtain hc | hc := List.mem_append.mp hc
  · exact Or.inl (hds c hc)
  · rw [pointed] at hc
    split at hc
    · cases hc
    · obtain rfl | hc := List.mem_cons.mp hc
      · exact Or.inr rfl
      · exact Or.inl (hfs c hc)

/-- A text keeps its digits when each of its characters is kept. -/
theorem asciiDigits_eq_self {cs : List Char} (h : ∀ c ∈ cs, asciiDigits [c] = [c]) :
    asciiDigits cs = cs := by
  induction cs with
  | nil => rfl
  | cons c r ih =>
      have hcons : asciiDigits (c :: r) = asciiDigits [c] ++ asciiDigits r := rfl
      rw [hcons, h c List.mem_cons_self, ih (fun d hd => h d (List.mem_cons_of_mem c hd))]
      rfl

/-- A character is **bare** when it is read as it stands in a number: it is no white space, no
digit of another script and no underscore. -/
def IsBare (c : Char) : Prop := isNumberBlank c = false ∧ asciiDigits [c] = [c] ∧ c ≠ '_'

instance : DecidablePred IsBare := fun c =>
  inferInstanceAs (Decidable (isNumberBlank c = false ∧ asciiDigits [c] = [c] ∧ c ≠ '_'))

/-- Characters that pass the test of being bare are bare. -/
theorem isBare_of_all {cs : List Char} (h : cs.all (fun c => IsBare c) = true) :
    ∀ c ∈ cs, IsBare c :=
  fun c hc => of_decide_eq_true (List.all_eq_true.mp h c hc)

/-- A digit is bare. -/
theorem isBare_of_isDigit {c : Char} (hc : isDigit c = true) : IsBare c :=
  forall_isDigit (P := IsBare) (by decide) hc

/-- The characters of plain numbers are bare. -/
theorem IsPlainChar.isBare {c : Char} (hc : IsPlainChar c) : IsBare c :=
  forall_isPlainChar (P := IsBare) (by decide) (by decide) hc

/-- Bare characters stay as they are when a number is read. -/
theorem numberChars_of_bare {s : String} (h : ∀ c ∈ s.toList, IsBare c) :
    numberChars s = s.toList := by
  have htrim : Text.trimBy isNumberBlank s.toList = s.toList :=
    Lexeme.trimBy_eq_self (fun c hc => (h c (List.mem_of_mem_head? hc)).1)
      (fun c hc => (h c (List.mem_of_mem_getLast? hc)).1)
  rw [numberChars, htrim, asciiDigits_eq_self fun c hc => (h c hc).2.1]

/-- There are no underscores to drop in bare characters. -/
theorem dropUnderscores?_of_bare {cs : List Char} (h : ∀ c ∈ cs, IsBare c) {prev : Char}
    (hprev : prev ≠ '_') : dropUnderscores? prev cs = some cs := by
  induction cs generalizing prev with
  | nil => rw [dropUnderscores?, if_neg hprev]
  | cons c r ih =>
      have hc : c ≠ '_' := (h c List.mem_cons_self).2.2
      rw [dropUnderscores?, if_neg hc, if_neg (fun hand => hprev hand.1),
        ih (fun d hd => h d (List.mem_cons_of_mem c hd)) hc]
      rfl

/-- **Bare characters are read as they are**, behind the sign if there is one. -/
theorem read?_of_bare {s : String} (h : ∀ c ∈ s.toList, IsBare c) :
    read? s = readUnsigned? (splitSign s.toList).1 (splitSign s.toList).2 := by
  rw [read?, numberChars_of_bare h, dropUnderscores?_of_bare h (by decide)]
  rfl

/-- A text that begins with a plain character has no sign. -/
theorem splitSign_of_isPlainChar {c : Char} {r : List Char} (hc : IsPlainChar c) :
    splitSign (c :: r) = (false, c :: r) := by
  have hminus : c ≠ '-' := forall_isPlainChar (P := (· ≠ '-')) (by decide) (by decide) hc
  have hplus : c ≠ '+' := forall_isPlainChar (P := (· ≠ '+')) (by decide) (by decide) hc
  simp only [splitSign]
  split
  · rename_i heq
    exact absurd (List.cons.inj heq).1 hminus
  · rename_i heq
    exact absurd (List.cons.inj heq).1 hplus
  · rfl

/-- A text that begins with a plain character is none of the names of numbers. -/
theorem map_toLower_ne {c : Char} {r : List Char} (hc : IsPlainChar c) {d : Char}
    {cs : List Char} (hpoint : '.' ≠ d) (hdigits : ∀ n < 10, (digitChar n).toLower ≠ d) :
    (c :: r).map Char.toLower ≠ d :: cs := by
  intro heq
  exact forall_isPlainChar (P := fun c => c.toLower ≠ d) hpoint hdigits hc (List.cons.inj heq).1

/-- The digits of a number, before and after its point, are those that are read. -/
theorem readUnsigned?_of_digits {ds fs : List Char} (hds : ∀ c ∈ ds, isDigit c = true)
    (hfs : ∀ c ∈ fs, isDigit c = true) (hne : ds ++ fs ≠ []) :
    readUnsigned? false (ds ++ pointed fs) =
      some (nearestDecimal false (Text.natOfDigits (ds ++ fs)) (0 - fs.length)) := by
  have hstop : ∀ c ∈ (pointed fs).head?, isDigit c = false := by
    cases fs with
    | nil => exact fun c hc => by cases hc
    | cons f r =>
        intro c hc
        obtain rfl : '.' = c := Option.some.inj hc
        rfl
  have htake := Lexeme.takeWhile_digits hds hstop
  have hdrop := Lexeme.dropWhile_digits hds hstop
  have hname : ∀ {d : Char} {cs : List Char}, '.' ≠ d → (∀ n < 10, (digitChar n).toLower ≠ d) →
      (ds ++ pointed fs).map Char.toLower ≠ d :: cs := by
    intro d cs hpoint hdigits
    have hplain := isPlainChar_of_mem hds hfs
    cases hchars : ds ++ pointed fs with
    | nil => exact List.cons_ne_nil _ _ ∘ Eq.symm
    | cons c r =>
        rw [hchars] at hplain
        exact map_toLower_ne (hplain c List.mem_cons_self) hpoint hdigits
  rw [readUnsigned?]
  simp only [htake, hdrop]
  rw [if_neg, if_neg]
  · cases fs with
    | nil =>
        have hempty : ds.isEmpty = false := by
          rw [List.append_nil] at hne
          exact List.isEmpty_eq_false_iff.mpr hne
        simp only [pointed, List.isEmpty_nil, if_true, hempty, Bool.false_and, Bool.false_eq_true,
          if_false]
        rfl
    | cons f s =>
        have hall : (f :: s).takeWhile isDigit = f :: s := List.takeWhile_eq_self_iff.mpr hfs
        have hnil : (f :: s).dropWhile isDigit = [] := List.dropWhile_eq_nil_iff.mpr hfs
        simp only [pointed, List.isEmpty_cons, Bool.and_false, Bool.false_eq_true, if_false, hall,
          hnil]
        rfl
  · exact hname (by decide) (by decide)
  · rintro (heq | heq)
    · exact hname (by decide) (by decide) heq
    · exact hname (by decide) (by decide) heq

/-- A plain number is read as the double nearest to its digits. -/
theorem readUnsigned?_of_plain {ds fs : List Char} (hds : AreDigits ds)
    (hfs : ∀ c ∈ fs, isDigit c = true) :
    readUnsigned? false (ds ++ pointed fs) =
      some (nearestDecimal false (Text.natOfDigits (ds ++ fs)) (0 - fs.length)) :=
  readUnsigned?_of_digits hds.isDigit hfs (List.append_ne_nil_of_left_ne_nil hds.ne_nil fs)

/-- **Digits with a point among them can be read**, also when the point comes first. They
count from the last place of the fraction. -/
theorem read?_of_digits {s : String} {ds fs : List Char} (hds : ∀ c ∈ ds, isDigit c = true)
    (hfs : ∀ c ∈ fs, isDigit c = true) (hne : ds ++ fs ≠ []) (hs : s.toList = ds ++ pointed fs) :
    read? s = some (nearestDecimal false (Text.natOfDigits (ds ++ fs)) (0 - fs.length)) := by
  have hplain := isPlainChar_of_mem hds hfs
  have hread := readUnsigned?_of_digits hds hfs hne
  rw [← hs] at hplain hread
  have hsign : splitSign s.toList = (false, s.toList) := by
    cases hchars : s.toList with
    | nil => rfl
    | cons c r => exact splitSign_of_isPlainChar (hplain c (hchars ▸ List.mem_cons_self))
  rw [read?_of_bare fun c hc => (hplain c hc).isBare, hsign]
  exact hread

/-- **Plain numbers can be read.** -/
theorem read?_of_plain {s : String} {ds fs : List Char} (hds : AreDigits ds)
    (hfs : ∀ c ∈ fs, isDigit c = true) (hs : s.toList = ds ++ pointed fs) :
    read? s = some (nearestDecimal false (Text.natOfDigits (ds ++ fs)) (0 - fs.length)) :=
  read?_of_digits hds.isDigit hfs (List.append_ne_nil_of_left_ne_nil hds.ne_nil fs) hs

end Decimal

/-! ### The forms of the texts -/

namespace Formula

open Lexeme

/-- The **forms** of the text of a size, which has no sign. -/
inductive IsSizeText : List Char → Prop
  | nan : IsSizeText ['n', 'a', 'n']
  | infinite : IsSizeText ['i', 'n', 'f']
  | plain {cs : List Char} : PlainChars cs → IsSizeText cs
  | exponent {ds fs : List Char} (e : Int) : AreDigits ds → (∀ c ∈ fs, isDigit c = true) →
      IsSizeText (ds ++ pointed fs ++ Decimal.Layout.exponentText e)

/-- The text of a number is that of a size, and one minus sign may stand before it. -/
theorem isSizeText_numberText (x : Float) :
    ∃ cs, IsSizeText cs ∧ ((numberText x).toList = cs ∨ (numberText x).toList = '-' :: cs) := by
  rw [numberText, Decimal.Layout.text]
  cases Decimal.Binary.ofFloat x with
  | nan => exact ⟨_, .nan, Or.inl rfl⟩
  | infinite negative =>
      cases negative with
      | false => exact ⟨_, .infinite, Or.inl rfl⟩
      | true => exact ⟨_, .infinite, Or.inr rfl⟩
  | finite negative significand exponent =>
      obtain ⟨ds, fs, hds, hfs, hsize⟩ :=
        Decimal.Layout.sizeText_general 15 significand exponent
      refine ⟨(Decimal.Layout.general 15).sizeText significand exponent, ?_, ?_⟩
      · obtain hplain | ⟨e, hexp⟩ := hsize
        · rw [hplain]
          exact .plain ⟨ds, fs, hds, hfs, rfl⟩
        · rw [hexp]
          exact .exponent e hds hfs
      · simp only [String.toList_ofList]
        cases negative with
        | false => exact Or.inl rfl
        | true => exact Or.inr rfl

/-- The **forms** of the text of a number. -/
inductive IsNumberText : List Char → Prop
  | nan : IsNumberText ['n', 'a', 'n']
  | infinite : IsNumberText ['i', 'n', 'f']
  | plain {cs : List Char} : PlainChars cs → IsNumberText cs
  | exponent {ds fs : List Char} (e : Int) : AreDigits ds → (∀ c ∈ fs, isDigit c = true) →
      IsNumberText (ds ++ pointed fs ++ Decimal.Layout.exponentText e)
  | minus {cs : List Char} : IsNumberText cs → IsNumberText ('-' :: cs)

/-- The text of a size is the text of a number. -/
theorem IsSizeText.isNumberText {cs : List Char} (h : IsSizeText cs) : IsNumberText cs := by
  cases h with
  | nan => exact .nan
  | infinite => exact .infinite
  | plain h => exact .plain h
  | exponent e hds hfs => exact .exponent e hds hfs

/-- The text of a number has **one of these forms**. -/
theorem isNumberText_numberText (x : Float) : IsNumberText (numberText x).toList := by
  obtain ⟨cs, hcs, h | h⟩ := isSizeText_numberText x
  · exact h ▸ hcs.isNumberText
  · exact h ▸ .minus hcs.isNumberText

/-- The names in the texts of numbers, with the letter of an exponent. -/
def nameLexemes : List Lexeme :=
  [⟨.name, ['n', 'a', 'n']⟩, ⟨.name, ['i', 'n', 'f']⟩, ⟨.name, ['e']⟩]

/-- The text of a size lexes, and unless it is plain, one of its lexemes is a name. -/
theorem IsSizeText.lexes {cs : List Char} (h : IsSizeText cs) :
    ∃ ls, Lexes cs ls ∧ (PlainChars cs ∧ ls = [⟨.number, cs⟩] ∨ ∃ l ∈ ls, l ∈ nameLexemes) := by
  cases h with
  | nan => exact ⟨_, lexes_nan, Or.inr ⟨_, List.mem_singleton_self _, by decide⟩⟩
  | infinite => exact ⟨_, lexes_inf, Or.inr ⟨_, List.mem_singleton_self _, by decide⟩⟩
  | plain h => exact ⟨_, h.lexes, Or.inl ⟨h, rfl⟩⟩
  | exponent e hds hfs =>
      obtain ⟨ls, hls, hname⟩ := lexes_exponent hds hfs e
      exact ⟨ls, hls, Or.inr ⟨_, hname, by decide⟩⟩

/-- The lexemes in the texts of numbers that are **no numbers**: the minus sign, the names and
the letter of an exponent. -/
def oddLexemes : List Lexeme :=
  [⟨.operator, ['-']⟩, ⟨.name, ['n', 'a', 'n']⟩, ⟨.name, ['i', 'n', 'f']⟩, ⟨.name, ['e']⟩]

/-- The text of a number lexes, and unless it is plain, one of its lexemes is no number. -/
theorem IsNumberText.lexes {cs : List Char} (h : IsNumberText cs) :
    ∃ ls, Lexes cs ls ∧ (PlainChars cs ∧ ls = [⟨.number, cs⟩] ∨ ∃ l ∈ ls, l ∈ oddLexemes) := by
  have hsize : ∀ {ds}, IsSizeText ds → ∃ ls, Lexes ds ls ∧
      (PlainChars ds ∧ ls = [⟨.number, ds⟩] ∨ ∃ l ∈ ls, l ∈ oddLexemes) := by
    intro ds hds
    obtain ⟨ls, hls, hplain | ⟨l, hl, hname⟩⟩ := hds.lexes
    · exact ⟨ls, hls, Or.inl hplain⟩
    · exact ⟨ls, hls, Or.inr ⟨l, hl, List.mem_cons_of_mem _ hname⟩⟩
  induction h with
  | nan => exact hsize .nan
  | infinite => exact hsize .infinite
  | plain h => exact hsize (.plain h)
  | exponent e hds hfs => exact hsize (.exponent e hds hfs)
  | minus _ ih =>
      obtain ⟨ls, hls, -⟩ := ih
      refine ⟨⟨.operator, ['-']⟩ :: ls, ?_, Or.inr ⟨_, List.mem_cons_self, List.mem_cons_self⟩⟩
      rw [Lexes] at hls
      rw [Lexes, scan_sign rfl, hls]

/-- No character of the text of a number is trimmed. -/
theorem IsNumberText.firm {cs : List Char} (h : IsNumberText cs) : ∀ c ∈ cs, Firm c := by
  have hplain : ∀ {ds fs : List Char}, AreDigits ds → (∀ c ∈ fs, isDigit c = true) →
      ∀ c ∈ ds ++ pointed fs, Firm c := fun hds hfs c hc =>
    Decimal.forall_isPlainChar (P := Firm) (by decide) (by decide)
      (Decimal.isPlainChar_of_mem hds.isDigit hfs c hc)
  induction h with
  | nan => exact firm_of_all (by decide)
  | infinite => exact firm_of_all (by decide)
  | plain h =>
      obtain ⟨ds, fs, hds, hfs, rfl⟩ := h
      exact hplain hds hfs
  | exponent e hds hfs =>
      obtain ⟨c, es, hc, -, hes, heq⟩ := Decimal.Layout.exponentText_eq e
      intro d hd
      obtain hd | hd := List.mem_append.mp hd
      · exact hplain hds hfs d hd
      · rw [heq] at hd
        obtain rfl | hd := List.mem_cons.mp hd
        · decide
        obtain rfl | hd := List.mem_cons.mp hd
        · simp only [isSign, Bool.or_eq_true, beq_iff_eq] at hc
          obtain ((rfl | rfl) | rfl) | rfl := hc
          all_goals decide
        · exact firm_of_isDigit (hes.isDigit d hd)
  | minus _ ih =>
      intro c hc
      obtain rfl | hc := List.mem_cons.mp hc
      · decide
      · exact ih c hc

/-- The text of a number is not empty. -/
theorem IsNumberText.ne_nil {cs : List Char} (h : IsNumberText cs) : cs ≠ [] := by
  cases h with
  | nan | infinite | minus => exact List.cons_ne_nil _ _
  | plain h =>
      obtain ⟨ds, fs, hds, -, rfl⟩ := h
      exact List.append_ne_nil_of_left_ne_nil hds.ne_nil _
  | exponent e hds _ =>
      exact List.append_ne_nil_of_left_ne_nil
        (List.append_ne_nil_of_left_ne_nil hds.ne_nil _) _

end Formula

end SheetFormula
