import SheetFormula.Token.Basic

/-!
# Segments

Cutting a list of tokens at the separators that stand outside all parentheses. Parentheses
are told by their text alone, whatever the kind of the token. Each segment ends with a
separator, only the last one may lack it, and that one is not empty.

A chain is the same cut seen from its operators: a first run of tokens and further runs, each
with the separator before it.

## Main statements

* `Segment.length_le_of_cut?`: no segment is longer than the list that was cut.
* `Chain.length_first_le`, `Chain.length_rest_le`: nor is a run of a chain.
-/

namespace SheetFormula

/-- A **segment**: a run of tokens and the separator that ended it. -/
structure Segment where
  tokens : List Token
  separator : Option Token
  deriving DecidableEq, Repr

namespace Segment

/-- Whether the text of the token is one of the separator characters. -/
def separates (separators : List Char) (t : Token) : Bool :=
  match t.text.toList with
  | [c] => separators.contains c
  | _ => false

/-- The depth of parentheses after a token, none when it closes one that was not open. -/
def depthAfter (depth : Nat) (t : Token) : Option Nat :=
  if t.isChar '(' then some (depth + 1)
  else if t.isChar ')' then (if depth = 0 then none else some (depth - 1))
  else some depth

/-- Segments with a token before the first one. -/
def prepend (t : Token) : List Segment → List Segment
  | [] => [⟨[t], none⟩]
  | s :: r => ⟨t :: s.tokens, s.separator⟩ :: r

/-- The segments of tokens that start at a depth of parentheses, none when the parentheses
do not match. -/
def cutFrom? (separators : List Char) : Nat → List Token → Option (List Segment)
  | depth, [] => if depth = 0 then some [] else none
  | depth, t :: r =>
      match depthAfter depth t with
      | none => none
      | some inner =>
          if inner = 0 ∧ separates separators t then
            (cutFrom? separators 0 r).map (⟨[], some t⟩ :: ·)
          else (cutFrom? separators inner r).map (prepend t)

/-- The **segments** of a list of tokens, none when its parentheses do not match. -/
def cut? (separators : String) (ts : List Token) : Option (List Segment) :=
  cutFrom? separators.toList 0 ts

/-- A token that is put before segments makes the first one longer by one at most. -/
theorem length_prepend_le {t : Token} {segments : List Segment} {n : Nat}
    (h : ∀ s ∈ segments, s.tokens.length ≤ n) :
    ∀ s ∈ prepend t segments, s.tokens.length ≤ n + 1 := by
  cases segments with
  | nil =>
      intro s hs
      simp only [prepend, List.mem_singleton] at hs
      subst hs
      simp
  | cons first rest =>
      intro s hs
      simp only [prepend, List.mem_cons] at hs
      rcases hs with rfl | hs
      · have := h first (by simp)
        simpa using this
      · exact Nat.le_succ_of_le (h s (by simp [hs]))

/-- No segment is longer than the tokens that were cut. -/
theorem length_le_of_cutFrom? {separators : List Char} {depth : Nat} {ts : List Token}
    {segments : List Segment} (h : cutFrom? separators depth ts = some segments) :
    ∀ s ∈ segments, s.tokens.length ≤ ts.length := by
  induction ts generalizing depth segments with
  | nil =>
      simp only [cutFrom?] at h
      split at h
      · cases h; simp
      · cases h
  | cons t r ih =>
      simp only [cutFrom?] at h
      split at h
      · cases h
      split at h
      · obtain ⟨rest, hrest, rfl⟩ := Option.map_eq_some_iff.mp h
        intro s hs
        rcases List.mem_cons.mp hs with rfl | hs
        · simp
        · exact Nat.le_succ_of_le (ih hrest s hs)
      · obtain ⟨rest, hrest, rfl⟩ := Option.map_eq_some_iff.mp h
        exact length_prepend_le (ih hrest)

/-- No segment is longer than the list that was cut. -/
theorem length_le_of_cut? {separators : String} {ts : List Token} {segments : List Segment}
    (h : cut? separators ts = some segments) : ∀ s ∈ segments, s.tokens.length ≤ ts.length :=
  length_le_of_cutFrom? h

end Segment

/-- A **chain**: a first run of tokens and further runs, each with the separator before
it. -/
structure Chain where
  first : List Token
  rest : List (Token × List Token)
  deriving DecidableEq, Repr

namespace Chain

/-- The chain of some segments. There is none without a segment, and none when the last
segment ends with a separator, which is then given. -/
def ofSegments : List Segment → Except (Option Token) Chain
  | [] => .error none
  | [s] =>
      match s.separator with
      | none => .ok ⟨s.tokens, []⟩
      | some t => .error (some t)
  | s :: s' :: r =>
      match s.separator, ofSegments (s' :: r) with
      | _, .error e => .error e
      | none, .ok _ => .error none
      | some t, .ok c => .ok ⟨s.tokens, (t, c.first) :: c.rest⟩

/-- Every run of a chain is the run of a segment. -/
theorem mem_of_ofSegments {segments : List Segment} {c : Chain} (h : ofSegments segments = .ok c) :
    (∃ s ∈ segments, s.tokens = c.first) ∧
      ∀ p ∈ c.rest, ∃ s ∈ segments, s.tokens = p.2 := by
  induction segments generalizing c with
  | nil => simp [ofSegments] at h
  | cons s r ih =>
      cases r with
      | nil =>
          simp only [ofSegments] at h
          split at h
          · cases h; simp
          · cases h
      | cons s' r =>
          simp only [ofSegments] at h
          split at h
          · cases h
          · cases h
          · rename_i t c' _ hc'
            cases h
            obtain ⟨⟨s₁, hs₁, hfirst⟩, hrest⟩ := ih hc'
            refine ⟨⟨s, by simp, rfl⟩, ?_⟩
            intro p hp
            rcases List.mem_cons.mp hp with rfl | hp
            · exact ⟨s₁, List.mem_cons_of_mem _ hs₁, hfirst⟩
            · obtain ⟨s₂, hs₂, h₂⟩ := hrest p hp
              exact ⟨s₂, List.mem_cons_of_mem _ hs₂, h₂⟩

/-- The first run of a chain is no longer than the list that was cut. -/
theorem length_first_le {separators : String} {ts : List Token} {segments : List Segment}
    {c : Chain} (hcut : Segment.cut? separators ts = some segments)
    (hchain : ofSegments segments = .ok c) : c.first.length ≤ ts.length := by
  obtain ⟨⟨s, hs, hfirst⟩, -⟩ := mem_of_ofSegments hchain
  exact hfirst ▸ Segment.length_le_of_cut? hcut s hs

/-- A further run of a chain is no longer than the list that was cut. -/
theorem length_rest_le {separators : String} {ts : List Token} {segments : List Segment}
    {c : Chain} (hcut : Segment.cut? separators ts = some segments)
    (hchain : ofSegments segments = .ok c) {p : Token × List Token} (hp : p ∈ c.rest) :
    p.2.length ≤ ts.length := by
  obtain ⟨-, hrest⟩ := mem_of_ofSegments hchain
  obtain ⟨s, hs, h⟩ := hrest p hp
  exact h ▸ Segment.length_le_of_cut? hcut s hs

end Chain

end SheetFormula
