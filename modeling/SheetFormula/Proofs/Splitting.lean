import Mathlib.Combinatorics.Enumerative.DyckWord
import SheetFormula.Formula.Parser
import SheetFormula.Proofs.Segments

/-!
# Splitting at Outer Separators

What it means to split tokens at their outer separators, said without the way in which it is
done. Tokens are balanced when their parentheses, told by their texts alone, are a Dyck word.
A place among them is level when as many parentheses are closed before it as are opened. The
segments of a splitting, each with its separator behind it, are the tokens again; a separator
stands at a level place, and no other token that could separate does.

## Main results

* `Segment.balanced_iff_pass?`: **balanced tokens** are those that lead from depth zero to
  depth zero.
* `Segment.whole_iff`: a run is whole when it is balanced and no separator in it is level.
* `Segment.cut?_eq_some_iff_splits`: **cutting gives the one splitting there is**.
* `Reading.segments_splits`: balanced tokens have one splitting, which is what they are cut
  into, and all others are refused.
-/

namespace SheetFormula

namespace Segment

open DyckStep (U D)

/-! ### Balance -/

/-- What a token does to the depth: it opens a parenthesis, closes one, or neither. -/
def step? (t : Token) : Option DyckStep :=
  if t.isChar '(' then some U else if t.isChar ')' then some D else none

/-- The **parentheses** among some tokens, told by their texts, whatever their kinds. -/
def parentheses (ts : List Token) : List DyckStep := ts.filterMap step?

/-- Tokens are **balanced** when their parentheses are a Dyck word. -/
def Balanced (ts : List Token) : Prop := ∃ w : DyckWord, w.toList = parentheses ts

/-- The place behind a run of tokens is **level** when the run closes as many parentheses as
it opens. -/
def Level (run : List Token) : Prop := (parentheses run).count U = (parentheses run).count D

/-- The parentheses of two runs are those of the first and then those of the second. -/
theorem parentheses_append (us vs : List Token) :
    parentheses (us ++ vs) = parentheses us ++ parentheses vs :=
  List.filterMap_append

/-- A token that is no parenthesis adds none. -/
theorem parentheses_singleton {t : Token} (h : step? t = none) : parentheses [t] = [] :=
  List.filterMap_cons_none h

/-- Balanced tokens close as many parentheses as they open. -/
theorem Balanced.level {run : List Token} (h : Balanced run) : Level run := by
  obtain ⟨w, hw⟩ := h
  rw [Level, ← hw]
  exact w.count_U_eq_count_D

/-- Behind a level place another one is level when the tokens in between are. -/
theorem Level.append_iff {us : List Token} (h : Level us) (vs : List Token) :
    Level (us ++ vs) ↔ Level vs := by
  rw [Level] at h
  rw [Level, Level, parentheses_append, List.count_append, List.count_append]
  omega

/-- The depth changes by the step of a token, and fails to go below zero. -/
theorem depthAfter_eq (depth : Nat) (t : Token) :
    depthAfter depth t = match step? t with
      | none => some depth
      | some .U => some (depth + 1)
      | some .D => if depth = 0 then none else some (depth - 1) := by
  rw [depthAfter, step?]
  cases t.isChar '(' with
  | true => rfl
  | false => cases t.isChar ')' <;> rfl

/-- Without separators a token only moves the depth. -/
theorem pass?_cons_nil (depth : Nat) (t : Token) (r : List Token) :
    pass? [] depth (t :: r) = (depthAfter depth t).bind fun inner => pass? [] inner r := by
  have hnone : separates [] t = false := by
    rw [Bool.eq_false_iff, ne_eq, separates_iff]
    rintro ⟨c, hc, -⟩
    cases hc
  simp [pass?_cons, hnone]

/-- **The depth in numbers**: tokens are passed without separators when no beginning of them
closes more than is open, and they end at the depth that is then left. -/
theorem pass?_nil_iff {depth last : Nat} {ts : List Token} :
    pass? [] depth ts = some last ↔
      (∀ i, ((parentheses ts).take i).count D ≤ depth + ((parentheses ts).take i).count U) ∧
        depth + (parentheses ts).count U = last + (parentheses ts).count D := by
  induction ts generalizing depth with
  | nil => simp [parentheses]
  | cons t r ih =>
      rw [pass?_cons_nil, depthAfter_eq]
      cases hstep : step? t with
      | none =>
          have hr : parentheses (t :: r) = parentheses r := List.filterMap_cons_none hstep
          rw [hr]
          exact ih
      | some s =>
          have hr : parentheses (t :: r) = s :: parentheses r := List.filterMap_cons_some hstep
          rw [hr, ← Nat.and_forall_add_one]
          cases s with
          | U =>
              rw [Option.bind_some, ih]
              simp only [List.take_zero, List.take_succ_cons, List.count_nil, List.count_cons_self,
                List.count_cons_of_ne (show U ≠ D by decide), Nat.zero_le, true_and]
              exact and_congr (forall_congr' fun i => by omega) (by omega)
          | D =>
              simp only [List.take_zero, List.take_succ_cons, List.count_nil, List.count_cons_self,
                List.count_cons_of_ne (show D ≠ U by decide), Nat.zero_le, true_and]
              by_cases hzero : depth = 0
              · rw [if_pos hzero]
                simp only [Option.bind_none, reduceCtorEq, false_iff, not_and]
                intro h
                have hfirst := h 0
                rw [List.take_zero, List.count_nil, List.count_nil] at hfirst
                omega
              · rw [if_neg hzero, Option.bind_some, ih]
                exact and_congr (forall_congr' fun i => by omega) (by omega)

/-- **Balanced tokens** are those that lead from depth zero to depth zero. -/
theorem balanced_iff_pass? {ts : List Token} : Balanced ts ↔ pass? [] 0 ts = some 0 := by
  rw [pass?_nil_iff]
  constructor
  · rintro ⟨w, hw⟩
    rw [← hw, Nat.zero_add, Nat.zero_add]
    exact ⟨fun i => (w.count_D_le_count_U i).trans (Nat.zero_add _).ge, w.count_U_eq_count_D⟩
  · rintro ⟨hbegin, htotal⟩
    refine ⟨⟨parentheses ts, by omega, fun i => ?_⟩, rfl⟩
    have hi := hbegin i
    omega

/-- A place inside balanced tokens is level when the depth there is zero. -/
theorem level_iff {us : List Token} {last : Nat} (h : pass? [] 0 us = some last) :
    Level us ↔ last = 0 := by
  have hcount := (pass?_nil_iff.mp h).2
  rw [Level]
  omega

/-- Cutting refuses the tokens that are not balanced, and no others. -/
theorem isSome_cutFrom?_iff {separators : List Char} {depth : Nat} {ts : List Token} :
    (cutFrom? separators depth ts).isSome = true ↔ pass? [] depth ts = some 0 := by
  induction ts generalizing depth with
  | nil =>
      rw [cutFrom?, pass?_nil]
      by_cases hzero : depth = 0 <;> simp [hzero]
  | cons t r ih =>
      rw [cutFrom?_cons, pass?_cons_nil]
      cases depthAfter depth t with
      | none => simp
      | some inner =>
          rw [Option.bind_some, Option.bind_some]
          by_cases hsep : inner = 0 ∧ separates separators t
          · obtain ⟨rfl, -⟩ := id hsep
            rw [if_pos hsep, Option.isSome_map, ih]
          · rw [if_neg hsep, Option.isSome_map, ih]

/-! ### Whole runs -/

/-- What holds at each place of a list holds at its first place and at each one behind it. -/
theorem forall_place_cons {α : Type} {P : List α → α → List α → Prop} {a : α} {r : List α} :
    (∀ us x vs, a :: r = us ++ x :: vs → P us x vs) ↔
      P [] a r ∧ ∀ us x vs, r = us ++ x :: vs → P (a :: us) x vs := by
  constructor
  · intro h
    exact ⟨h [] a r rfl, fun us x vs hr => h (a :: us) x vs (by rw [hr]; rfl)⟩
  · rintro ⟨hfirst, hrest⟩ us x vs hsplit
    obtain ⟨rfl, hcons⟩ | ⟨us', rfl, hr⟩ := List.cons_eq_append_iff.mp hsplit
    · obtain ⟨rfl, rfl⟩ := List.cons.inj hcons
      exact hfirst
    · exact hrest us' x vs hr

/-- A run is passed when it is passed without separators and no separator in it leads to
depth zero. -/
theorem pass?_iff {separators : List Char} {depth last : Nat} {ts : List Token} :
    pass? separators depth ts = some last ↔
      pass? [] depth ts = some last ∧ ∀ us t vs, ts = us ++ t :: vs →
        separates separators t = true → pass? [] depth (us ++ [t]) ≠ some 0 := by
  induction ts generalizing depth with
  | nil => simp
  | cons u r ih =>
      rw [forall_place_cons]
      simp only [pass?_cons separators, List.nil_append, List.cons_append, pass?_cons_nil,
        pass?_nil]
      cases hd : depthAfter depth u with
      | none => simp
      | some inner =>
          simp only [Option.bind_some]
          by_cases hsep : inner = 0 ∧ separates separators u = true
          · rw [if_pos hsep]
            obtain ⟨rfl, hu⟩ := hsep
            simp [hu]
          · have hu : separates separators u = true → some inner ≠ some 0 :=
              fun hu hzero => hsep ⟨Option.some.inj hzero, hu⟩
            rw [if_neg hsep, ih]
            exact ⟨fun h => ⟨h.1, hu, h.2⟩, fun h => ⟨h.1, h.2.2⟩⟩

/-- A token **is one of the separators** when its text is a single character of them. -/
def OneOf (separators : String) (t : Token) : Prop :=
  ∃ c ∈ separators.toList, t.text.toList = [c]

variable {separators : String}

/-- A separator is no parenthesis. -/
theorem OneOf.step?_eq (hplain : Plain separators.toList) {t : Token} (h : OneOf separators t) :
    step? t = none := by
  have hdepth := depthAfter_of_separates hplain (separates_iff.mpr h) 1
  rw [depthAfter_eq] at hdepth
  cases hstep : step? t with
  | none => rfl
  | some s =>
      rw [hstep] at hdepth
      cases s <;> cases hdepth

/-- **A run is whole** when it is balanced and no separator in it is at a level place. The tokens
before a place lead to some depth, which a separator keeps. -/
theorem whole_iff (hplain : Plain separators.toList) {run : List Token} :
    Whole separators run ↔
      Balanced run ∧ ∀ us t vs, run = us ++ t :: vs → OneOf separators t → ¬ Level us := by
  rw [Whole, pass?_iff, balanced_iff_pass?]
  refine and_congr_right fun hrun => forall_congr' fun us => forall_congr' fun t =>
    forall_congr' fun vs => forall_congr' fun hsplit => ?_
  rw [separates_iff]
  refine forall_congr' fun ht => not_congr ?_
  rw [hsplit, pass?_append] at hrun
  obtain ⟨depth, hus, -⟩ := Option.bind_eq_some_iff.mp hrun
  rw [pass?_append, hus, Option.bind_some, pass?_cons_nil,
    depthAfter_of_separates hplain (separates_iff.mpr ht), level_iff hus]
  simp

/-! ### Splittings -/

/-- The tokens of a segment with the separator that ended it. -/
def written (s : Segment) : List Token := s.tokens ++ s.separator.toList

/-- A segment is **well placed** behind some tokens when it is balanced, its separator is one
of the separators at a level place, and no other one of them in it is. -/
structure Placed (separators : String) (before : List Token) (s : Segment) : Prop where
  balanced : Balanced s.tokens
  separator : ∀ t ∈ s.separator, OneOf separators t ∧ Level (before ++ s.tokens)
  inside : ∀ us t vs, s.tokens = us ++ t :: vs → OneOf separators t → ¬ Level (before ++ us)

/-- Segments are a **splitting** of some tokens when they are these tokens written one after
another, each is well placed behind those before it, and only the last one may lack a
separator, in which case it is not empty. -/
structure Splits (separators : String) (ts : List Token) (ss : List Segment) : Prop where
  written_eq : ss.flatMap written = ts
  placed : ∀ us s vs, ss = us ++ s :: vs → Placed separators (us.flatMap written) s
  last : ∀ us s vs, ss = us ++ s :: vs → s.separator = none → vs = [] ∧ s.tokens ≠ []

/-- Level tokens before a segment do not change how it is placed. -/
theorem placed_append_iff {us : List Token} (h : Level us) (before : List Token) (s : Segment) :
    Placed separators (us ++ before) s ↔ Placed separators before s := by
  have hlevel : ∀ vs, Level (us ++ before ++ vs) ↔ Level (before ++ vs) := fun vs => by
    rw [List.append_assoc, h.append_iff]
  constructor
  · rintro ⟨hbalanced, hsep, hinside⟩
    simp only [hlevel] at hsep hinside
    exact ⟨hbalanced, hsep, hinside⟩
  · rintro ⟨hbalanced, hsep, hinside⟩
    refine ⟨hbalanced, ?_, ?_⟩
    · simpa only [hlevel] using hsep
    · simpa only [hlevel] using hinside

/-- At the beginning a segment is well placed when it is whole and its separator is one. -/
theorem placed_nil_iff (hplain : Plain separators.toList) {s : Segment} :
    Placed separators [] s ↔
      Whole separators s.tokens ∧ ∀ t ∈ s.separator, OneOf separators t := by
  rw [whole_iff hplain]
  constructor
  · intro h
    exact ⟨⟨h.balanced, h.inside⟩, fun t ht => (h.separator t ht).1⟩
  · rintro ⟨⟨hbalanced, hinside⟩, hsep⟩
    exact ⟨hbalanced, fun t ht => ⟨hsep t ht, hbalanced.level⟩, hinside⟩

/-- Only no tokens are split into no segments. -/
theorem splits_nil_iff {ts : List Token} : Splits separators ts [] ↔ ts = [] := by
  constructor
  · intro h
    exact h.written_eq.symm
  · rintro rfl
    exact ⟨rfl, by simp, by simp⟩

/-- A splitting whose first segment has no separator is that segment alone. -/
theorem splits_none_iff (hplain : Plain separators.toList) {ts run : List Token}
    {rest : List Segment} :
    Splits separators ts (⟨run, none⟩ :: rest) ↔
      ts = run ∧ run ≠ [] ∧ Whole separators run ∧ rest = [] := by
  constructor
  · intro h
    obtain ⟨rfl, hne⟩ := h.last [] ⟨run, none⟩ rest rfl rfl
    have hplaced := (placed_nil_iff hplain).mp (h.placed [] ⟨run, none⟩ [] rfl)
    exact ⟨by simpa [written] using h.written_eq.symm, hne, hplaced.1, rfl⟩
  · rintro ⟨rfl, hne, hwhole, rfl⟩
    refine ⟨by simp [written], forall_place_cons.mpr ⟨?_, by simp⟩,
      forall_place_cons.mpr ⟨?_, by simp⟩⟩
    · exact (placed_nil_iff hplain).mpr ⟨hwhole, by simp⟩
    · exact fun _ => ⟨rfl, hne⟩

/-- A splitting whose first segment has a separator goes on with a splitting of what is
behind it. -/
theorem splits_some_iff (hplain : Plain separators.toList) {ts run : List Token} {t : Token}
    {rest : List Segment} :
    Splits separators ts (⟨run, some t⟩ :: rest) ↔
      ∃ r, ts = run ++ t :: r ∧ Whole separators run ∧ OneOf separators t ∧
        Splits separators r rest := by
  have hlevel : Placed separators [] ⟨run, some t⟩ → Level (written ⟨run, some t⟩) := by
    intro h
    have ht := (h.separator t rfl).1.step?_eq hplain
    refine (h.balanced.level.append_iff [t]).mpr ?_
    rw [Level, parentheses_singleton ht]
    rfl
  constructor
  · rintro ⟨hwritten, hplaced, hlast⟩
    obtain ⟨hfirst, hplaced⟩ := forall_place_cons.mp hplaced
    obtain ⟨-, hlast⟩ := forall_place_cons.mp hlast
    obtain ⟨hwhole, ht⟩ := (placed_nil_iff hplain).mp hfirst
    refine ⟨rest.flatMap written, by simpa [written] using hwritten.symm, hwhole, ht t rfl,
      rfl, fun us s vs hs => ?_, hlast⟩
    exact (placed_append_iff (hlevel hfirst) _ s).mp (hplaced us s vs hs)
  · rintro ⟨r, rfl, hwhole, ht, hrest⟩
    have hfirst : Placed separators [] ⟨run, some t⟩ := by
      refine (placed_nil_iff hplain).mpr ⟨hwhole, fun u hu => ?_⟩
      obtain rfl : t = u := Option.some.inj hu
      exact ht
    refine ⟨?_, forall_place_cons.mpr ⟨hfirst, fun us s vs hs => ?_⟩,
      forall_place_cons.mpr ⟨by simp, hrest.last⟩⟩
    · rw [List.flatMap_cons, hrest.written_eq]
      simp [written]
    · exact (placed_append_iff (hlevel hfirst) _ s).mpr (hrest.placed us s vs hs)

/-- **Cutting gives the one splitting there is.** -/
theorem cut?_eq_some_iff_splits (hplain : Plain separators.toList) {ts : List Token}
    {ss : List Segment} : cut? separators ts = some ss ↔ Splits separators ts ss := by
  induction ss generalizing ts with
  | nil =>
      rw [splits_nil_iff]
      constructor
      · intro h
        obtain ⟨hts, -⟩ | ⟨-, -, hss⟩ | ⟨_, _, _, _, -, -, -, -, hss⟩ := cutFrom?_cases hplain h
        · exact hts
        · cases hss
        · cases hss
      · rintro rfl
        rfl
  | cons s rest ih =>
      constructor
      · intro h
        obtain ⟨-, hss⟩ | ⟨hne, hwhole, hss⟩ | ⟨run, t, r, rest', hts, hwhole, ht, hr, hss⟩ :=
          cutFrom?_cases hplain h
        · cases hss
        · obtain ⟨rfl, rfl⟩ := List.cons.inj hss
          exact (splits_none_iff hplain).mpr ⟨rfl, hne, hwhole, rfl⟩
        · obtain ⟨rfl, rfl⟩ := List.cons.inj hss
          exact (splits_some_iff hplain).mpr ⟨r, hts, hwhole, separates_iff.mp ht, ih.mp hr⟩
      · intro h
        obtain ⟨run, separator⟩ := s
        cases separator with
        | none =>
            obtain ⟨rfl, hne, hwhole, rfl⟩ := (splits_none_iff hplain).mp h
            exact cut?_of_whole hwhole hne
        | some t =>
            obtain ⟨r, rfl, hwhole, ht, hr⟩ := (splits_some_iff hplain).mp h
            rw [cut?_append_cons hplain hwhole (separates_iff.mpr ht), ih.mpr hr]
            rfl

end Segment

namespace Reading

open Segment (Balanced Plain Splits)

/-- **Balanced tokens have one splitting**, and this is what they are cut into. Tokens that are
not balanced are refused for their parentheses, and no others are. -/
theorem segments_splits {separators : String} (hplain : Plain separators.toList)
    (ts : List Token) :
    (segments separators ts = .error (.fault .unbalanced) ↔ ¬ Balanced ts) ∧
      (Balanced ts → ∃ ss, segments separators ts = .ok ss ∧ Splits separators ts ss ∧
        ∀ ss', Splits separators ts ss' → ss' = ss) := by
  have hbalanced : (Segment.cut? separators ts).isSome = true ↔ Balanced ts := by
    rw [Segment.cut?, Segment.isSome_cutFrom?_iff, Segment.balanced_iff_pass?]
  rw [← hbalanced, segments]
  cases hcut : Segment.cut? separators ts with
  | none => exact ⟨⟨fun _ => by simp, fun _ => rfl⟩, fun h => (by cases h)⟩
  | some ss =>
      refine ⟨⟨fun h => (by cases h), fun h => absurd rfl h⟩, fun _ => ⟨ss, rfl, ?_, ?_⟩⟩
      · exact (Segment.cut?_eq_some_iff_splits hplain).mp hcut
      · intro ss' hss'
        rw [(Segment.cut?_eq_some_iff_splits hplain).mpr hss'] at hcut
        exact Option.some.inj hcut

/-- The tokens `-(1+2)+`, whose first parenthesis is of the wrong kind, have an empty segment
first and none last. The tokens `)(` are refused. -/
theorem segments_splits_signs : Plain "+-".toList ∧ ∃ group : List Token,
    group = [⟨.number, "("⟩, ⟨.number, "1"⟩, ⟨.operator, "+"⟩, ⟨.number, "2"⟩, Token.closeParen] ∧
    Balanced (⟨.operator, "-"⟩ :: (group ++ [⟨.operator, "+"⟩])) ∧
    Splits "+-" (⟨.operator, "-"⟩ :: (group ++ [⟨.operator, "+"⟩]))
      [⟨[], some ⟨.operator, "-"⟩⟩, ⟨group, some ⟨.operator, "+"⟩⟩] ∧
    ¬ Balanced [Token.closeParen, Token.openParen] ∧
    segments "+-" [Token.closeParen, Token.openParen] = .error (.fault .unbalanced) := by
  have hplain : Plain "+-".toList := ⟨by decide, by decide⟩
  obtain ⟨group, hgroup⟩ : ∃ group : List Token, group = [⟨.number, "("⟩, ⟨.number, "1"⟩,
      ⟨.operator, "+"⟩, ⟨.number, "2"⟩, Token.closeParen] := ⟨_, rfl⟩
  have hbalanced : Balanced (⟨.operator, "-"⟩ :: (group ++ [⟨.operator, "+"⟩])) := by
    rw [Segment.balanced_iff_pass?, hgroup]
    decide
  have hopen : ¬ Balanced [Token.closeParen, Token.openParen] := by
    rw [Segment.balanced_iff_pass?]
    decide
  have hcut : segments "+-" (⟨.operator, "-"⟩ :: (group ++ [⟨.operator, "+"⟩])) =
      .ok [⟨[], some ⟨.operator, "-"⟩⟩, ⟨group, some ⟨.operator, "+"⟩⟩] := by
    rw [hgroup]
    rfl
  obtain ⟨ss, hss, hsplits, -⟩ := (segments_splits hplain _).2 hbalanced
  obtain rfl := Except.ok.inj (hcut.symm.trans hss)
  exact ⟨hplain, group, hgroup, hbalanced, hsplits, hopen, (segments_splits hplain _).1.mpr hopen⟩

end Reading

end SheetFormula
