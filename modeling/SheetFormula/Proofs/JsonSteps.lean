import SheetFormula.Proofs.JsonTexts

/-!
# Steps of the JSON Parser

What one step of the parser reads, as an equivalence for each kind of value. A bound on the depth
that is large enough for a value changes nothing of it, so a value is read in one way only.

## Main results

* `Json.of_number_eq_ok`: what a number was read from.
* `Json.value_succ_iff`, `Json.elements_succ_iff`, `Json.members_succ_iff`: the steps of the
  parser, from which all that follows is derived.
* `Json.value_unique`: **a value is read in one way**, whatever the bound on the depth.
-/

namespace SheetFormula

namespace Json

variable {limit : Option Nat} {fuel : Nat}

/-! ### Numbers -/

/-- The digits of an integer part are digits. -/
theorem isDigit_of_mem_wholeDigits {cs : List Char} {c : Char} (hc : c ∈ (wholeDigits cs).1) :
    Text.isDigit c = true := by
  revert hc
  fun_cases wholeDigits cs with
  | case1 r =>
      intro hc
      rw [List.mem_singleton.mp hc]
      decide
  | case2 cs _ => exact fun hc => List.mem_takeWhile_imp hc

/-- **What a number was read from**: a sign, and the parts of a number, of which the rest is left.
It is a double, or the integer of its digits, which are within the limit. -/
theorem of_number_eq_ok {cs : List Char} {v : Json LooseText} {rest : List Char}
    (h : number limit cs = .ok (v, rest)) : ∃ negative unsigned, cs = signed negative unsigned ∧
      rest = (exponentPart (fractionPart (wholeDigits unsigned).2).2).2 ∧
      ((∃ x, v = .real x) ∨
        limit.any (· < (wholeDigits unsigned).1.length) = false ∧
          v = .whole (if negative then -(Text.natOfDigits (wholeDigits unsigned).1 : Int)
            else Text.natOfDigits (wholeDigits unsigned).1)) := by
  revert h
  fun_cases number limit cs with
  | case1 | case2 | case5 =>
      intro h
      cases h
  | case3 negative unsigned hsplit integer r hwhole _ fraction r' hfraction exponent r''
      hexponent _ hlong =>
      intro h
      obtain ⟨rfl, rfl⟩ := Prod.mk.inj (Except.ok.inj h)
      refine ⟨negative, unsigned, ?_, ?_, ?_⟩
      · split at hsplit <;> obtain ⟨rfl, rfl⟩ := Prod.mk.inj hsplit <;> rfl
      · rw [hwhole, hfraction, hexponent]
      · rw [hwhole]
        exact Or.inr ⟨Bool.eq_false_iff.mpr hlong, rfl⟩
  | case4 negative unsigned hsplit integer r hwhole _ fraction r' hfraction exponent r''
      hexponent _ x =>
      intro h
      obtain ⟨rfl, rfl⟩ := Prod.mk.inj (Except.ok.inj h)
      refine ⟨negative, unsigned, ?_, ?_, Or.inl ⟨x, rfl⟩⟩
      · split at hsplit <;> obtain ⟨rfl, rfl⟩ := Prod.mk.inj hsplit <;> rfl
      · rw [hwhole, hfraction, hexponent]

/-! ### Steps -/

/-- A value that is no text, list or record is a name or a number. -/
def scalar (limit : Option Nat) (cs : List Char) : Except Fault (Json LooseText × List Char) :=
  match named? cs with
  | some out => .ok out
  | none => number limit cs

/-- The items of a list behind its bracket, or the closing bracket at once. -/
def ListTail (limit : Option Nat) (fuel : Nat) (cs : List Char)
    (out : Json LooseText × List Char) : Prop :=
  (∃ rest, cs = ']' :: rest ∧ out = (.list [], rest)) ∨
    (∀ s, cs ≠ ']' :: s) ∧
      ∃ items rest, elements limit fuel cs = .ok (items, rest) ∧ out = (.list items, rest)

/-- The fields of a record behind its brace, or the closing brace at once. -/
def RecordTail (limit : Option Nat) (fuel : Nat) (cs : List Char)
    (out : Json LooseText × List Char) : Prop :=
  (∃ rest, cs = '\x7d' :: rest ∧ out = (.record [], rest)) ∨
    (∀ s, cs ≠ '\x7d' :: s) ∧
      ∃ fields rest, members limit fuel [] cs = .ok (fields, rest) ∧ out = (.record fields, rest)

/-- **How a value is read**: a text, a list, a record or a scalar. -/
theorem value_succ_iff {cs : List Char} {out : Json LooseText × List Char} :
    value limit (fuel + 1) cs = .ok out ↔
      (∃ r s rest, cs = '"' :: r ∧ string? r = some (s, rest) ∧ out = (.text s, rest)) ∨
      (∃ r, cs = '[' :: r ∧ ListTail limit fuel (skip r) out) ∨
      (∃ r, cs = '\x7b' :: r ∧ RecordTail limit fuel (skip r) out) ∨
      ((∀ r, cs ≠ '"' :: r) ∧ (∀ r, cs ≠ '[' :: r) ∧ (∀ r, cs ≠ '\x7b' :: r) ∧
        scalar limit cs = .ok out) := by
  have hmap : ∀ {α : Type} {x : Except Fault (α × List Char)} (f : α → Json LooseText),
      (x.map fun (a, rest) => (f a, rest)) = .ok out ↔
        ∃ a rest, x = .ok (a, rest) ∧ out = (f a, rest) := by
    intro α x f
    cases x with
    | error e => simp [Except.map]
    | ok p =>
        obtain ⟨a, rest⟩ := p
        simp [Except.map, eq_comm]
  by_cases htext : ∃ r, cs = '"' :: r
  · obtain ⟨r, rfl⟩ := htext
    rw [value]
    cases hstring : string? r with
    | none => simp [hstring]
    | some p =>
        obtain ⟨s, rest⟩ := p
        simp [hstring, eq_comm]
  by_cases hlist : ∃ r, cs = '[' :: r
  · obtain ⟨r, rfl⟩ := hlist
    by_cases hclose : ∃ s, skip r = ']' :: s
    · obtain ⟨s, hs⟩ := hclose
      rw [value]
      simp [hs, ListTail, eq_comm]
    · have hopen : ∀ s, skip r ≠ ']' :: s := fun s hs => hclose ⟨s, hs⟩
      rw [value_list hopen, hmap]
      simp [ListTail, hopen]
  by_cases hrecord : ∃ r, cs = '\x7b' :: r
  · obtain ⟨r, rfl⟩ := hrecord
    by_cases hclose : ∃ s, skip r = '\x7d' :: s
    · obtain ⟨s, hs⟩ := hclose
      rw [value]
      simp [hs, RecordTail, eq_comm]
    · have hopen : ∀ s, skip r ≠ '\x7d' :: s := fun s hs => hclose ⟨s, hs⟩
      rw [value_record hopen, hmap]
      simp [RecordTail, hopen]
  · have hscalar : value limit (fuel + 1) cs = scalar limit cs := by
      unfold value
      split
      · exact absurd ⟨_, rfl⟩ htext
      · exact absurd ⟨_, rfl⟩ hlist
      · exact absurd ⟨_, rfl⟩ hrecord
      · unfold scalar
        cases named? cs <;> rfl
    rw [hscalar]
    simp only [not_exists] at htext hlist hrecord
    simp [htext, hlist, hrecord]

/-- **How items are read**: a value, and then a comma with more items or the closing bracket. -/
theorem elements_succ_iff {cs : List Char} {out : List (Json LooseText) × List Char} :
    elements limit (fuel + 1) cs = .ok out ↔
      ∃ item r, value limit fuel cs = .ok (item, r) ∧
        ((∃ s items rest, skip r = ',' :: s ∧ elements limit fuel (skip s) = .ok (items, rest) ∧
            out = (item :: items, rest)) ∨
          ∃ rest, skip r = ']' :: rest ∧ out = ([item], rest)) := by
  rw [elements]
  cases hvalue : value limit fuel cs with
  | error f => simp [bind, Except.bind]
  | ok p =>
      obtain ⟨item, r⟩ := p
      simp only [bind, Except.bind, Except.ok.injEq, Prod.mk.injEq]
      constructor
      · intro h
        refine ⟨item, r, ⟨rfl, rfl⟩, ?_⟩
        split at h
        · rename_i s hs
          split at h
          · cases h
          · rename_i q hq
            exact Or.inl ⟨s, q.1, q.2, hs, hq, (Except.ok.inj h).symm⟩
        · rename_i rest hrest
          exact Or.inr ⟨rest, hrest, (Except.ok.inj h).symm⟩
        · cases h
      · rintro ⟨item', r', ⟨rfl, rfl⟩, ⟨s, items, rest, hs, hitems, rfl⟩ | ⟨rest, hrest, rfl⟩⟩
        · simp only [hs, hitems]
          rfl
        · simp only [hrest]
          rfl

/-- **How fields are read**: a name, a colon and a value, and then a comma with more fields or
the closing brace. -/
theorem members_succ_iff {known : List (LooseText × Json LooseText)} {cs : List Char}
    {out : List (LooseText × Json LooseText) × List Char} :
    members limit (fuel + 1) known cs = .ok out ↔
      ∃ r name r₁ r₂ v r₃, cs = '"' :: r ∧ string? r = some (name, r₁) ∧ skip r₁ = ':' :: r₂ ∧
        value limit fuel (skip r₂) = .ok (v, r₃) ∧
        ((∃ s, skip r₃ = ',' :: s ∧
            members limit fuel (put name v known) (skip s) = .ok out) ∨
          ∃ rest, skip r₃ = '\x7d' :: rest ∧ out = (put name v known, rest)) := by
  constructor
  · intro h
    unfold members at h
    split at h
    · rename_i r
      split at h
      · cases h
      · rename_i name r₁ hname
        split at h
        · rename_i r₂ hcolon
          cases hvalue : value limit fuel (skip r₂) with
          | error f =>
              rw [hvalue] at h
              cases h
          | ok p =>
              obtain ⟨v, r₃⟩ := p
              rw [hvalue] at h
              simp only [bind, Except.bind] at h
              refine ⟨r, name, r₁, r₂, v, r₃, rfl, hname, hcolon, hvalue, ?_⟩
              split at h
              · rename_i s hs
                exact Or.inl ⟨s, hs, h⟩
              · rename_i rest hrest
                exact Or.inr ⟨rest, hrest, (Except.ok.inj h).symm⟩
              · cases h
        · cases h
    · cases h
  · rintro ⟨r, name, r₁, r₂, v, r₃, rfl, hname, hcolon, hvalue, htail⟩
    rw [members]
    simp only [hname, hcolon, hvalue, bind, Except.bind]
    rcases htail with ⟨s, hs, hrest⟩ | ⟨rest, hrest, rfl⟩
    · simp only [hs, hrest]
    · simp only [hrest]
      rfl

/-- One step more reads the same: for values, for items and for fields. -/
theorem ok_succ (fuel : Nat) :
    (∀ cs out, value limit fuel cs = .ok out → value limit (fuel + 1) cs = .ok out) ∧
    (∀ cs out, elements limit fuel cs = .ok out → elements limit (fuel + 1) cs = .ok out) ∧
    (∀ known cs out, members limit fuel known cs = .ok out →
      members limit (fuel + 1) known cs = .ok out) := by
  induction fuel with
  | zero =>
      refine ⟨fun cs out h => ?_, fun cs out h => ?_, fun known cs out h => ?_⟩
      · cases h
      · cases h
      · cases h
  | succ fuel ih =>
      obtain ⟨ihvalue, ihelements, ihmembers⟩ := ih
      refine ⟨fun cs out h => ?_, fun cs out h => ?_, fun known cs out h => ?_⟩
      · rw [value_succ_iff] at h ⊢
        rcases h with htext | ⟨r, hr, htail⟩ | ⟨r, hr, htail⟩ | hscalar
        · exact Or.inl htext
        · refine Or.inr (Or.inl ⟨r, hr, htail.imp_right (fun ⟨hopen, items, rest, h, hout⟩ => ?_)⟩)
          exact ⟨hopen, items, rest, ihelements _ _ h, hout⟩
        · refine Or.inr (Or.inr (Or.inl ⟨r, hr, htail.imp_right
            (fun ⟨hopen, fields, rest, h, hout⟩ => ?_)⟩))
          exact ⟨hopen, fields, rest, ihmembers _ _ _ h, hout⟩
        · exact Or.inr (Or.inr (Or.inr hscalar))
      · rw [elements_succ_iff] at h ⊢
        obtain ⟨item, r, hvalue, htail⟩ := h
        refine ⟨item, r, ihvalue _ _ hvalue, htail.imp_left ?_⟩
        intro ⟨s, items, rest, hs, h, hout⟩
        exact ⟨s, items, rest, hs, ihelements _ _ h, hout⟩
      · rw [members_succ_iff] at h ⊢
        obtain ⟨r, name, r₁, r₂, v, r₃, hr, hname, hcolon, hvalue, htail⟩ := h
        refine ⟨r, name, r₁, r₂, v, r₃, hr, hname, hcolon, ihvalue _ _ hvalue,
          htail.imp_left (fun ⟨s, hs, h⟩ => ?_)⟩
        exact ⟨s, hs, ihmembers _ _ _ h⟩

/-- **A value is read in one way**, whatever the bounds on the depth. -/
theorem value_unique {fuel' : Nat} {cs : List Char} {out out' : Json LooseText × List Char}
    (h : value limit fuel cs = .ok out) (h' : value limit fuel' cs = .ok out') : out = out' := by
  have hmono : ∀ {n : Nat} {o : Json LooseText × List Char}, value limit n cs = .ok o →
      ∀ k, value limit (n + k) cs = .ok o := by
    intro n o hn k
    induction k with
    | zero => exact hn
    | succ k ih => exact (ok_succ (n + k)).1 cs o ih
  have hsum := hmono h fuel'
  have hsum' := hmono h' fuel
  rw [Nat.add_comm fuel' fuel, hsum] at hsum'
  exact Except.ok.inj hsum'

end Json

end SheetFormula
