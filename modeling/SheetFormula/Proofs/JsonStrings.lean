import SheetFormula.Json.Parser
import SheetFormula.Json.Printer

/-!
# Texts Between Quotes Read Back

Between its quotes a text is written in printable ASCII characters, whatever it holds: line
ends, quotes and all other characters are escaped, those beyond sixteen bits as two code
units. Reading undoes it, character by character: the escape of a character is read as its
code units, and these are joined to the character.

## Main results

* `units?_charText`: the escape of a character is read as its code units.
* `joinUnits_codeUnits`: the code units of a character are joined to it.
* `string?_quote`: **a text between quotes is read as the text**.
* `isShown_quote`: a text between quotes holds printable ASCII characters only.
-/

namespace SheetFormula

/-! ### Hexadecimal digits -/

namespace Text

/-- The last of several hexadecimal digits. -/
theorem hexDigits_succ {width : Nat} (hwidth : 0 < width) (n : Nat) :
    hexDigits (width + 1) n = hexDigits width (n / 16) ++ [(n % 16).digitChar] := by
  rw [hexDigits, hexDigits]
  rcases Nat.lt_or_ge n 16 with hlt | hge
  · have hdiv : n / 16 = 0 := Nat.div_eq_of_lt hlt
    have hwidth' : width + 1 - 1 = width - 1 + 1 := by omega
    rw [Nat.toDigits_of_lt_base hlt, Nat.mod_eq_of_lt hlt, hdiv, Nat.toDigits_zero,
      List.length_singleton, List.length_singleton, hwidth', List.replicate_succ']
  · rw [Nat.toDigits_of_base_le (by decide) hge, List.length_append, List.length_singleton,
      Nat.add_sub_add_right, List.append_assoc]

end Text

namespace Json

open Text (hexDigits hexDigits_succ)

/-- The hexadecimal digit of a number below 16 is read as that number. -/
theorem digitIn?_digitChar : ∀ m < 16, Decimal.digitIn? 16 m.digitChar = some m := by decide

/-- The four digits of a code unit are read as the code unit. -/
theorem exists_hexDigits {n : Nat} (hn : n < 0x10000) :
    ∃ a b c d, hexDigits 4 n = [a, b, c, d] ∧ unit? a b c d = some n := by
  have hone : hexDigits 1 (n / 16 / 16 / 16) = [(n / 16 / 16 / 16).digitChar] := by
    rw [hexDigits, Nat.toDigits_of_lt_base (by omega)]
    rfl
  refine ⟨(n / 16 / 16 / 16).digitChar, (n / 16 / 16 % 16).digitChar, (n / 16 % 16).digitChar,
    (n % 16).digitChar, ?_, ?_⟩
  · rw [hexDigits_succ (by decide), hexDigits_succ (by decide), hexDigits_succ (by decide),
      hone]
    rfl
  · rw [unit?, digitIn?_digitChar _ (by omega), digitIn?_digitChar _ (by omega),
      digitIn?_digitChar _ (by omega), digitIn?_digitChar _ (by omega)]
    simp only [Option.bind_eq_bind, Option.bind_some, Option.pure_def, Option.some.injEq]
    omega

/-! ### Code units -/

/-- The **code units** of a character. -/
def codeUnits (c : Char) : List Nat :=
  if c.toNat < 0x10000 then [c.toNat]
  else [0xd800 + (c.toNat - 0x10000) / 0x400, 0xdc00 + (c.toNat - 0x10000) % 0x400]

/-- The code of a character is not that of half a pair. -/
theorem toNat_bounds (c : Char) : c.toNat < 0xd800 ∨ 0xe000 ≤ c.toNat ∧ c.toNat < 0x110000 := by
  have hvalid := c.valid
  simp only [UInt32.isValidChar, Nat.isValidChar] at hvalid
  change c.toNat < _ ∨ _ < c.toNat ∧ c.toNat < _ at hvalid
  omega

/-- The letter with the code of a character is the character, for no character is a half of
another one. -/
theorem ofNat_toNat (c : Char) : Letter.ofNat c.toNat = .whole c := by
  have hwhole : ¬ (0xd800 ≤ c.toNat ∧ c.toNat < 0xe000) := by
    have := toNat_bounds c
    omega
  rw [Letter.ofNat, dif_neg hwhole, Char.ofNat_toNat]

/-- **The code units of a character are joined to it**, whatever follows. -/
theorem joinUnits_codeUnits (c : Char) (ns : List Nat) :
    joinUnits (codeUnits c ++ ns) = .whole c :: joinUnits ns := by
  have hbounds := toNat_bounds c
  rw [codeUnits]
  split
  · rw [List.singleton_append]
    cases ns with
    | nil =>
        change [Letter.ofNat c.toNat] = _
        rw [ofNat_toNat, joinUnits]
    | cons l r => rw [joinUnits, if_neg (by omega), ofNat_toNat]
  · have hsum : 0x10000 + (0xd800 + (c.toNat - 0x10000) / 0x400 - 0xd800) * 0x400 +
        (0xdc00 + (c.toNat - 0x10000) % 0x400 - 0xdc00) = c.toNat := by omega
    rw [List.cons_append, List.singleton_append, joinUnits, if_pos (by omega), hsum,
      Char.ofNat_toNat]

/-- The code units of characters are joined to them. -/
theorem joinUnits_flatMap (cs : List Char) :
    joinUnits (cs.flatMap codeUnits) = cs.map .whole := by
  induction cs with
  | nil => rfl
  | cons c r ih => rw [List.flatMap_cons, joinUnits_codeUnits, ih, List.map_cons]

/-! ### Escapes -/

/-- A code unit behind `\u` is read. -/
theorem units?_unitEscape {n : Nat} (hn : n < 0x10000) (r : List Char) :
    units? (unitEscape n ++ r) = (units? r).map fun (ns, rest) => (n :: ns, rest) := by
  obtain ⟨a, b, c, d, hdigits, hunit⟩ := exists_hexDigits hn
  rw [unitEscape, hdigits]
  change units? ('\\' :: 'u' :: a :: b :: c :: d :: r) = _
  rw [units?, hunit]
  cases units? r <;> rfl

/-- A character behind a backslash is read as the one that it stands for. -/
theorem units?_escape {e : Char} {n : Nat} (he : escape? e = some n) (hu : e ≠ 'u')
    (r : List Char) :
    units? ('\\' :: e :: r) = (units? r).map fun (ns, rest) => (n :: ns, rest) := by
  rw [units?, he]
  · cases units? r <;> rfl
  · intro _ _ _ _ _ heq _
    exact hu heq

/-- A printable character is read as it is. -/
theorem units?_plain {c : Char} (hquote : c ≠ '"') (hslash : c ≠ '\\') (hshown : 0x20 ≤ c.toNat)
    (r : List Char) :
    units? (c :: r) = (units? r).map fun (ns, rest) => (c.toNat :: ns, rest) := by
  rw [units?]
  · have hchar : ¬ (c = '\\' ∨ c.toNat < 0x20) := by
      rintro (heq | hlt)
      · exact hslash heq
      · omega
    rw [if_neg hchar]
    cases units? r <;> rfl
  · exact hquote
  · intro _ _ _ _ _ heq _
    exact hslash heq
  · intro _ _ heq _
    exact hslash heq

/-- The escape of a character: a character behind a backslash, the character itself, or one
or two code units. -/
theorem charText_cases (c : Char) :
    (∃ e, e ≠ 'u' ∧ e ∈ ['"', '\\', 'n', 'r', 't', 'f', 'b'] ∧ escape? e = some c.toNat ∧
      charText c = ['\\', e] ∧ codeUnits c = [c.toNat]) ∨
    (c ≠ '"' ∧ c ≠ '\\' ∧ 0x20 ≤ c.toNat ∧ c.toNat < 0x7f ∧
      charText c = [c] ∧ codeUnits c = [c.toNat]) ∨
    (c.toNat < 0x10000 ∧ charText c = unitEscape c.toNat ∧ codeUnits c = [c.toNat]) ∨
    (∃ h l, h < 0x10000 ∧ l < 0x10000 ∧ charText c = unitEscape h ++ unitEscape l ∧
      codeUnits c = [h, l]) := by
  have hbounds := toNat_bounds c
  by_cases hquote : c = '"'
  · subst hquote
    exact Or.inl ⟨'"', by decide, by decide, rfl, rfl, rfl⟩
  by_cases hslash : c = '\\'
  · subst hslash
    exact Or.inl ⟨'\\', by decide, by decide, rfl, rfl, rfl⟩
  by_cases hfeed : c = '\n'
  · subst hfeed
    exact Or.inl ⟨'n', by decide, by decide, rfl, rfl, rfl⟩
  by_cases hreturn : c = '\r'
  · subst hreturn
    exact Or.inl ⟨'r', by decide, by decide, rfl, rfl, rfl⟩
  by_cases htab : c = '\t'
  · subst htab
    exact Or.inl ⟨'t', by decide, by decide, rfl, rfl, rfl⟩
  rw [charText, codeUnits]
  simp only [if_neg hquote, if_neg hslash, if_neg hfeed, if_neg hreturn, if_neg htab]
  by_cases hpage : c.toNat = 12
  · exact Or.inl ⟨'f', by decide, by decide, by rw [hpage]; rfl, by rw [if_pos hpage],
      by rw [if_pos (by omega)]⟩
  by_cases hback : c.toNat = 8
  · exact Or.inl ⟨'b', by decide, by decide, by rw [hback]; rfl,
      by rw [if_neg hpage, if_pos hback], by rw [if_pos (by omega)]⟩
  rw [if_neg hpage, if_neg hback]
  by_cases hshown : 0x20 ≤ c.toNat ∧ c.toNat < 0x7f
  · exact Or.inr (Or.inl ⟨hquote, hslash, hshown.1, hshown.2, by rw [if_pos hshown],
      by rw [if_pos (by omega)]⟩)
  rw [if_neg hshown]
  by_cases hsmall : c.toNat < 0x10000
  · rw [if_pos hsmall, if_pos hsmall]
    exact Or.inr (Or.inr (Or.inl ⟨hsmall, rfl, rfl⟩))
  · rw [if_neg hsmall, if_neg hsmall]
    exact Or.inr (Or.inr (Or.inr ⟨_, _, by omega, by omega, rfl, rfl⟩))

/-- **The escape of a character is read as its code units**. -/
theorem units?_charText (c : Char) (r : List Char) :
    units? (charText c ++ r) = (units? r).map fun (ns, rest) => (codeUnits c ++ ns, rest) := by
  rcases charText_cases c with ⟨e, hu, -, he, htext, hunits⟩ | ⟨hquote, hslash, hshown, -, htext,
    hunits⟩ | ⟨hsmall, htext, hunits⟩ | ⟨h, l, hh, hl, htext, hunits⟩
  · rw [htext, hunits]
    exact units?_escape he hu r
  · rw [htext, hunits]
    exact units?_plain hquote hslash hshown r
  · rw [htext, hunits]
    exact units?_unitEscape hsmall r
  · rw [htext, hunits, List.append_assoc, units?_unitEscape hh, units?_unitEscape hl,
      Option.map_map]
    rfl

/-- Escaped characters are read back as their code units, up to the closing quote. -/
theorem units?_flatMap (cs r : List Char) :
    units? (cs.flatMap charText ++ '"' :: r) = some (cs.flatMap codeUnits, r) := by
  induction cs with
  | nil => rw [List.flatMap_nil, List.nil_append, units?, List.flatMap_nil]
  | cons c cs ih =>
      rw [List.flatMap_cons, List.append_assoc, units?_charText, ih, List.flatMap_cons]
      rfl

/-- A quoted text is its escaped characters between two quotes. -/
theorem toList_quote (s : String) :
    (quote s).toList = '"' :: (s.toList.flatMap charText ++ ['"']) := by
  rw [quote, String.toList_ofList, List.cons_append]

/-- **A text between quotes is read as the text**, whatever follows it. -/
theorem string?_quote (s : String) (r : List Char) :
    string? (s.toList.flatMap charText ++ '"' :: r) = some (.whole s, r) := by
  rw [string?, units?_flatMap, Option.map_some]
  dsimp only
  rw [joinUnits_flatMap, LooseText.ofLetters_map_whole, String.ofList_toList]

/-! ### Printable characters -/

/-- The **printable ASCII characters**. -/
def IsShown (c : Char) : Prop := 0x20 ≤ c.toNat ∧ c.toNat < 0x7f

instance (c : Char) : Decidable (IsShown c) := inferInstanceAs (Decidable (_ ∧ _))

/-- A hexadecimal digit is printable. -/
theorem isShown_digitChar : ∀ m < 16, IsShown m.digitChar := by decide

/-- What a number is written with in base 16 is printable. -/
theorem isShown_toDigits (n : Nat) : ∀ c ∈ Nat.toDigits 16 n, IsShown c := by
  induction n using Nat.strongRecOn with
  | _ n ih =>
      intro c hc
      rcases Nat.lt_or_ge n 16 with hlt | hge
      · rw [Nat.toDigits_of_lt_base hlt, List.mem_singleton] at hc
        rw [hc]
        exact isShown_digitChar n hlt
      · rw [Nat.toDigits_of_base_le (by decide) hge] at hc
        rcases List.mem_append.mp hc with hc | hc
        · exact ih (n / 16) (by omega) c hc
        · rw [List.mem_singleton.mp hc]
          exact isShown_digitChar _ (by omega)

/-- The escape of a code unit is printable. -/
theorem isShown_unitEscape (n : Nat) : ∀ c ∈ unitEscape n, IsShown c := by
  intro c hc
  rw [unitEscape] at hc
  rcases List.mem_cons.mp hc with rfl | hc
  · decide
  rcases List.mem_cons.mp hc with rfl | hc
  · decide
  rcases List.mem_append.mp hc with hc | hc
  · rw [List.eq_of_mem_replicate hc]
    decide
  · exact isShown_toDigits n c hc

/-- What a character is written as is printable. -/
theorem isShown_charText (c : Char) : ∀ d ∈ charText c, IsShown d := by
  rcases charText_cases c with ⟨e, -, he, -, htext, -⟩ | ⟨-, -, hlow, hhigh, htext, -⟩ |
    ⟨-, htext, -⟩ | ⟨h, l, -, -, htext, -⟩
  · have hshown : ∀ e ∈ ['"', '\\', 'n', 'r', 't', 'f', 'b'], IsShown e := by
      intro e he
      simp only [List.mem_cons, List.not_mem_nil, or_false] at he
      rcases he with rfl | rfl | rfl | rfl | rfl | rfl | rfl <;> decide
    intro d hd
    rw [htext] at hd
    rcases List.mem_cons.mp hd with rfl | hd
    · decide
    · rw [List.mem_singleton.mp hd]
      exact hshown e he
  · intro d hd
    rw [htext] at hd
    rw [List.mem_singleton.mp hd]
    exact ⟨hlow, hhigh⟩
  · rw [htext]
    exact isShown_unitEscape _
  · intro d hd
    rw [htext] at hd
    rcases List.mem_append.mp hd with hd | hd
    · exact isShown_unitEscape _ d hd
    · exact isShown_unitEscape _ d hd

/-- A text between quotes is printable. -/
theorem isShown_quote (s : String) : ∀ c ∈ (quote s).toList, IsShown c := by
  intro c hc
  rw [toList_quote] at hc
  rcases List.mem_cons.mp hc with rfl | hc
  · decide
  rcases List.mem_append.mp hc with hc | hc
  · obtain ⟨d, -, hd⟩ := List.mem_flatMap.mp hc
    exact isShown_charText d c hd
  · rw [List.mem_singleton.mp hc]
    decide

end Json

end SheetFormula
