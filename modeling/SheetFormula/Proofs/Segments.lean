import Mathlib.Data.List.Basic
import SheetFormula.Token.Segment

/-!
# Where Tokens Are Cut

The theory of cutting a list of tokens at its outer separators. `Segment.pass?` follows the
depth of parentheses over a run of tokens and stops at an outer separator; a run is *whole*
for some separators when it passes from depth zero to depth zero.

## Main results

* `Segment.pass?_append`: a run is passed piece by piece.
* `Segment.pass?_succ`: inside a parenthesis no separator counts.
* `Segment.cutFrom?_append`: cutting goes through a passed run without a cut.
* `Segment.cutFrom?_cases`: what cutting finds first.
-/

namespace SheetFormula

namespace Segment

/-- The depth of parentheses **after a run of tokens** that begins at some depth, none when
the run closes more than was opened or crosses an outer separator. -/
def pass? (separators : List Char) : Nat → List Token → Option Nat
  | depth, [] => some depth
  | depth, t :: r =>
      (depthAfter depth t).bind fun inner =>
        if inner = 0 ∧ separates separators t then none else pass? separators inner r

/-- A run is **whole** for some separators when its parentheses match and no separator
stands outside them. -/
def Whole (separators : String) (run : List Token) : Prop :=
  pass? separators.toList 0 run = some 0

/-- The separators do not include the parentheses themselves. -/
def Plain (separators : List Char) : Prop := '(' ∉ separators ∧ ')' ∉ separators

/-! ### Single tokens -/

/-- A token separates when its text is one of the separator characters. -/
theorem separates_iff {separators : List Char} {t : Token} :
    separates separators t = true ↔ ∃ c ∈ separators, t.text.toList = [c] := by
  rw [separates]
  split
  · rename_i c hc
    simp [hc]
  · rename_i hne
    constructor
    · intro h
      cases h
    · rintro ⟨c, -, hc⟩
      exact absurd hc (hne c)

/-- A token is a character when its text is this character alone. -/
theorem isChar_iff {t : Token} {c : Char} : t.isChar c = true ↔ t.text.toList = [c] := by
  simp [Token.isChar]

/-- A separator that is no parenthesis leaves the depth as it is. -/
theorem depthAfter_of_separates {separators : List Char} (hplain : Plain separators)
    {t : Token} (ht : separates separators t = true) (depth : Nat) :
    depthAfter depth t = some depth := by
  obtain ⟨c, hc, htext⟩ := separates_iff.mp ht
  have hopen : t.isChar '(' = false := by
    rw [Bool.eq_false_iff, ne_eq, isChar_iff, htext]
    rintro h
    obtain rfl : c = '(' := by simpa using h
    exact hplain.1 hc
  have hclose : t.isChar ')' = false := by
    rw [Bool.eq_false_iff, ne_eq, isChar_iff, htext]
    rintro h
    obtain rfl : c = ')' := by simpa using h
    exact hplain.2 hc
  simp [depthAfter, hopen, hclose]

/-- One more open parenthesis before a token is one more after it. -/
theorem depthAfter_succ {depth inner : Nat} {t : Token} (h : depthAfter depth t = some inner) :
    depthAfter (depth + 1) t = some (inner + 1) := by
  rw [depthAfter] at h ⊢
  split at h
  · rename_i hopen
    obtain rfl := Option.some.inj h
    rw [if_pos hopen]
  · rename_i hopen
    rw [if_neg hopen]
    split at h
    · rename_i hclose
      rw [if_pos hclose, if_neg (Nat.succ_ne_zero depth)]
      split at h
      · cases h
      · obtain rfl := Option.some.inj h
        simp only [Option.some.injEq]
        omega
    · rename_i hclose
      obtain rfl := Option.some.inj h
      rw [if_neg hclose]

/-! ### Passing a run -/

/-- The end of the tokens keeps the depth. -/
@[simp] theorem pass?_nil (separators : List Char) (depth : Nat) :
    pass? separators depth [] = some depth := rfl

/-- A token is passed when the depth stays possible and it is no separator outside the parentheses.
-/
theorem pass?_cons (separators : List Char) (depth : Nat) (t : Token) (r : List Token) :
    pass? separators depth (t :: r) = (depthAfter depth t).bind fun inner =>
      if inner = 0 ∧ separates separators t then none else pass? separators inner r := rfl

/-- A run is passed piece by piece. -/
theorem pass?_append (separators : List Char) (us vs : List Token) (depth : Nat) :
    pass? separators depth (us ++ vs) =
      (pass? separators depth us).bind fun inner => pass? separators inner vs := by
  induction us generalizing depth with
  | nil => rfl
  | cons t r ih =>
      rw [List.cons_append, pass?_cons, pass?_cons]
      cases depthAfter depth t with
      | none => rfl
      | some inner =>
          simp only [Option.bind_some]
          split
          · rfl
          · exact ih inner

/-- What passes with some separators passes with fewer of them. -/
theorem pass?_of_subset {separators fewer : List Char} (hsub : fewer ⊆ separators)
    {depth last : Nat} {ts : List Token} (h : pass? separators depth ts = some last) :
    pass? fewer depth ts = some last := by
  induction ts generalizing depth with
  | nil => exact h
  | cons t r ih =>
      rw [pass?_cons] at h ⊢
      cases hd : depthAfter depth t with
      | none => rw [hd] at h; cases h
      | some inner =>
          rw [hd] at h
          simp only [Option.bind_some] at h ⊢
          split at h
          · cases h
          · rename_i hsep
            rw [if_neg, ih h]
            rintro ⟨hzero, ht⟩
            obtain ⟨c, hc, htext⟩ := separates_iff.mp ht
            exact hsep ⟨hzero, separates_iff.mpr ⟨c, hsub hc, htext⟩⟩

/-- Inside a parenthesis no separator counts. -/
theorem pass?_succ {separators : List Char} (others : List Char) {depth last : Nat}
    {ts : List Token} (h : pass? separators depth ts = some last) :
    pass? others (depth + 1) ts = some (last + 1) := by
  induction ts generalizing depth with
  | nil =>
      obtain rfl := Option.some.inj h
      rfl
  | cons t r ih =>
      rw [pass?_cons] at h ⊢
      cases hd : depthAfter depth t with
      | none => rw [hd] at h; cases h
      | some inner =>
          rw [hd] at h
          rw [depthAfter_succ hd]
          simp only [Option.bind_some] at h ⊢
          split at h
          · cases h
          · rw [if_neg (fun hzero => absurd hzero.1 (Nat.succ_ne_zero inner))]
            exact ih h

/-! ### Whole runs -/

/-- A whole run is whole for fewer separators. -/
theorem Whole.of_subset {separators fewer : String} {run : List Token}
    (h : Whole separators run) (hsub : fewer.toList ⊆ separators.toList) : Whole fewer run :=
  pass?_of_subset hsub h

/-- The empty run is whole. -/
theorem whole_nil (separators : String) : Whole separators [] := rfl

/-- Whole runs one after another are a whole run. -/
theorem Whole.append {separators : String} {us vs : List Token} (hus : Whole separators us)
    (hvs : Whole separators vs) : Whole separators (us ++ vs) := by
  rw [Whole] at hus hvs ⊢
  rw [pass?_append, hus, Option.bind_some, hvs]

/-- A single token that is neither a parenthesis nor a separator is whole. -/
theorem whole_singleton {separators : String} {t : Token}
    (h : ∀ c, t.text.toList = [c] → c ∉ '(' :: ')' :: separators.toList) :
    Whole separators [t] := by
  have hopen : t.isChar '(' = false := by
    rw [Bool.eq_false_iff, ne_eq, isChar_iff]
    exact fun ht => h _ ht (by simp)
  have hclose : t.isChar ')' = false := by
    rw [Bool.eq_false_iff, ne_eq, isChar_iff]
    exact fun ht => h _ ht (by simp)
  have hsep : separates separators.toList t = false := by
    rw [Bool.eq_false_iff, ne_eq, separates_iff]
    rintro ⟨c, hc, ht⟩
    exact h c ht (by simp [hc])
  simp [Whole, pass?, depthAfter, hopen, hclose, hsep]

/-- A whole run between parentheses is whole for any separators. -/
theorem Whole.group {separators others : String} {run : List Token} (h : Whole separators run)
    (hplain : Plain others.toList) :
    Whole others (Token.openParen :: (run ++ [Token.closeParen])) := by
  have hinner : pass? others.toList 1 run = some 1 := pass?_succ others.toList h
  have hopen : depthAfter 0 Token.openParen = some 1 := by decide
  have hclose : depthAfter 1 Token.closeParen = some 0 := by decide
  have hsep : separates others.toList Token.closeParen = false := by
    rw [Bool.eq_false_iff, ne_eq, separates_iff]
    rintro ⟨c, hc, htext⟩
    obtain rfl : ')' = c := by simpa [Token.closeParen] using htext
    exact hplain.2 hc
  rw [Whole]
  rw [pass?_cons, hopen, Option.bind_some, if_neg (by simp), pass?_append, hinner,
    Option.bind_some, pass?_cons, hclose, Option.bind_some, if_neg (by simp [hsep]), pass?_nil]

/-! ### Cutting -/

/-- A separator outside the parentheses begins a new segment; any other token goes to the first one.
-/
theorem cutFrom?_cons (separators : List Char) (depth : Nat) (t : Token) (r : List Token) :
    cutFrom? separators depth (t :: r) = (depthAfter depth t).bind fun inner =>
      if inner = 0 ∧ separates separators t then
        (cutFrom? separators 0 r).map (⟨[], some t⟩ :: ·)
      else (cutFrom? separators inner r).map (prepend t) := by
  rw [cutFrom?]
  cases depthAfter depth t <;> rfl

/-- Tokens before the first segment go to its front. -/
theorem foldr_prepend_cons (run : List Token) (s : Segment) (segments : List Segment) :
    run.foldr prepend (s :: segments) = ⟨run ++ s.tokens, s.separator⟩ :: segments := by
  induction run with
  | nil => rfl
  | cons t r ih =>
      rw [List.foldr_cons, ih]
      rfl

/-- Tokens without a segment after them are a segment of their own. -/
theorem foldr_prepend_nil {run : List Token} (h : run ≠ []) :
    run.foldr prepend [] = [⟨run, none⟩] := by
  obtain ⟨us, t, rfl⟩ : ∃ us t, run = us ++ [t] :=
    ⟨run.dropLast, run.getLast h, (List.dropLast_append_getLast h).symm⟩
  rw [List.foldr_append]
  exact foldr_prepend_cons us ⟨[t], none⟩ []

/-- **Cutting goes through a passed run** without a cut. -/
theorem cutFrom?_append {separators : List Char} {depth last : Nat} {us : List Token}
    (h : pass? separators depth us = some last) (vs : List Token) :
    cutFrom? separators depth (us ++ vs) =
      (cutFrom? separators last vs).map fun segments => us.foldr prepend segments := by
  induction us generalizing depth with
  | nil =>
      obtain rfl := Option.some.inj h
      simp
  | cons t r ih =>
      rw [pass?_cons] at h
      rw [List.cons_append, cutFrom?_cons]
      cases hd : depthAfter depth t with
      | none => rw [hd] at h; cases h
      | some inner =>
          rw [hd] at h
          simp only [Option.bind_some] at h ⊢
          split at h
          · cases h
          · rename_i hsep
            rw [if_neg hsep, ih h, Option.map_map]
            rfl

/-- A whole run with a separator behind it is cut off. -/
theorem cut?_append_cons {separators : String} (hplain : Plain separators.toList)
    {run r : List Token} {t : Token} (hrun : Whole separators run)
    (ht : separates separators.toList t = true) :
    cut? separators (run ++ t :: r) = (cut? separators r).map (⟨run, some t⟩ :: ·) := by
  rw [cut?, cutFrom?_append hrun, cutFrom?_cons, depthAfter_of_separates hplain ht,
    Option.bind_some, if_pos ⟨rfl, ht⟩, Option.map_map]
  refine congrArg (Option.map · _) (funext fun segments => ?_)
  simp [foldr_prepend_cons]

/-- A whole run with nothing behind it is a segment of its own. -/
theorem cut?_of_whole {separators : String} {run : List Token} (hrun : Whole separators run)
    (hne : run ≠ []) :
    cut? separators run = some [⟨run, none⟩] := by
  have hcut := cutFrom?_append hrun []
  rw [List.append_nil] at hcut
  simp [cut?, hcut, cutFrom?, foldr_prepend_nil hne]

/-- What cutting finds first: nothing, a last run, or a run and the separator after it. -/
theorem cutFrom?_cases {separators : List Char} (hplain : Plain separators) {depth : Nat}
    {ts : List Token} {segments : List Segment}
    (h : cutFrom? separators depth ts = some segments) :
    (ts = [] ∧ segments = []) ∨
    (ts ≠ [] ∧ pass? separators depth ts = some 0 ∧ segments = [⟨ts, none⟩]) ∨
    ∃ run t r rest, ts = run ++ t :: r ∧ pass? separators depth run = some 0 ∧
      separates separators t = true ∧ cutFrom? separators 0 r = some rest ∧
      segments = ⟨run, some t⟩ :: rest := by
  induction ts generalizing depth segments with
  | nil =>
      simp only [cutFrom?] at h
      split at h
      · cases h; exact Or.inl ⟨rfl, rfl⟩
      · cases h
  | cons t r ih =>
      rw [cutFrom?_cons] at h
      cases hd : depthAfter depth t with
      | none => rw [hd] at h; cases h
      | some inner =>
          rw [hd] at h
          simp only [Option.bind_some] at h
          split at h
          · rename_i hsep
            obtain ⟨rest, hrest, rfl⟩ := Option.map_eq_some_iff.mp h
            rw [depthAfter_of_separates hplain hsep.2] at hd
            obtain rfl := Option.some.inj hd
            obtain rfl := hsep.1
            exact Or.inr (Or.inr ⟨[], t, r, rest, rfl, rfl, hsep.2, hrest, rfl⟩)
          · rename_i hsep
            obtain ⟨rest, hrest, rfl⟩ := Option.map_eq_some_iff.mp h
            have hpass : ∀ us, pass? separators depth (t :: us) = pass? separators inner us := by
              intro us
              rw [pass?_cons, hd, Option.bind_some, if_neg hsep]
            refine Or.inr ?_
            obtain ⟨rfl, rfl⟩ | ⟨-, hlast, rfl⟩ | ⟨run, u, r', rest', rfl, hrun, hu, hr', rfl⟩ :=
              ih hrest
            · simp only [cutFrom?] at hrest
              split at hrest
              · rename_i hzero
                exact Or.inl ⟨by simp, by rw [hpass, hzero, pass?_nil], rfl⟩
              · cases hrest
            · exact Or.inl ⟨by simp, by rw [hpass, hlast], rfl⟩
            · exact Or.inr ⟨t :: run, u, r', rest', rfl, by rw [hpass, hrun], hu, hr', rfl⟩

end Segment

end SheetFormula
