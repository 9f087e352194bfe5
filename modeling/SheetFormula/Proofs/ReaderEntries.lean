import Mathlib.Algebra.GroupWithZero.Nat
import SheetFormula.Proofs.Failures
import SheetFormula.Proofs.Shortest

/-!
# The Entries of the Reader

A formula is read on several levels, each of which cuts its tokens and passes the parts on. All of
these levels can be entered directly, with any tokens at all, also those that no other level would
have passed on.

Every entry is uniform in the resolver, with one exception: a call takes its first token for the
name of a function, and is passed on only with one. Entered without tokens it fails, and no fault is
the reason. Apart from that an entry fails with a fault, unless it stops at a reference that is
unconvertible.

## Main results

* `Reading.Entry.uniform`: **every entry is uniform**, a call if it has tokens.
* `Reading.Entry.clean_iff_stops`: when an entry fails with faults only, for all tokens and grids.
* `Reading.Entry.clean_iff`: **when an entry is clean** for references with row numbers that can be
  read, in a grid of texts: unless it is a call without tokens.
* `Reading.Entry.not_clean_call`: the call without tokens.
-/

namespace SheetFormula

/-! ### Row numbers -/

/-- A number of rows that an address does not lie within can be written, when it is not negative. -/
theorem Address.writable_of_le_row {ref : String} {a : Address} (ha : ofRef ref = .ok a) {n : Int}
    (hn : 0 ≤ n) (hle : n ≤ a.row) : Decimal.writable n = true := by
  obtain ⟨letter, ds, hparts, hlong, rfl⟩ := ofRef_eq_ok_iff.mp ha
  obtain ⟨-, -, -, hdigits⟩ := parts?_eq_some_iff.mp hparts
  have hrow : n.natAbs < Text.natOfDigits ds := by
    change n ≤ (Text.natOfDigits ds : Int) - 1 at hle
    omega
  rw [Decimal.writable, decide_eq_true_iff]
  generalize Decimal.digitLimit = limit at hlong ⊢
  calc n.natAbs < Text.natOfDigits ds := hrow
    _ < 10 ^ ds.length := Text.natOfDigits_lt (List.all_eq_true.mp hdigits)
    _ ≤ 10 ^ limit := Nat.pow_le_pow_right (by decide) hlong

namespace Reading

variable {grid : Option Grid} {ts : List Token}

/-! ### Entries -/

/-- The **entries of the reader**: the levels of reading that can be called with any tokens. -/
inductive Entry
  | parse
  | expression
  | term
  | factor
  | call
  deriving DecidableEq

namespace Entry

/-- What an entry reads with a resolver. To parse is to read an expression. -/
def reading (e : Entry) (ts : List Token) (resolve : String → Except Failure Float) :
    Reading (Formula Float) :=
  match e with
  | .parse | .expression => Reading.expression resolve ts
  | .term => Reading.term resolve ts
  | .factor => Reading.factor resolve ts
  | .call => Reading.call resolve ts

/-- What comes of an entry on a grid. -/
def outcome (e : Entry) (grid : Option Grid) (ts : List Token) : Except Failure (Formula Float) :=
  match e with
  | .parse => (Computation.parse grid ts).outcome
  | .expression => (Reading.expression (resolve grid) ts).outcome
  | .term => (Reading.term (resolve grid) ts).outcome
  | .factor => (Reading.factor (resolve grid) ts).outcome
  | .call => (Reading.call (resolve grid) ts).outcome

/-- The outcome of an entry is that of its reading with the references of the grid. -/
theorem outcome_eq (e : Entry) (grid : Option Grid) (ts : List Token) :
    e.outcome grid ts = (e.reading ts (resolve grid)).outcome := by
  cases e with
  | parse => exact Computation.outcome_parse grid ts
  | expression | term | factor | call => rfl

/-- **Every entry is uniform**: what it reads depends on the numbers of the references among its
tokens only. A call has to have a token. -/
theorem uniform (e : Entry) (h : ¬(e = .call ∧ ts = [])) : Uniform ts (e.reading ts) := by
  intro r₁ r₂ refs hsame hcovers
  have hts := matching_of_covers hsame hcovers
  obtain ⟨hexpression, -, hterm, -, hfactor, hcall⟩ :=
    @corresponds_levels id (AlikeFailures r₁ r₂ refs) r₁ r₂ Token.keepsForm_id
  simp only [List.map_id] at hexpression hterm hfactor hcall
  refine inStep_of_corresponds ?_
  cases e with
  | parse | expression => exact hexpression ts hts
  | term => exact hterm ts hts
  | factor => exact hfactor ts hts
  | call =>
      cases ts with
      | nil => exact absurd ⟨rfl, rfl⟩ h
      | cons t r => exact hcall _ t r rfl rfl hts

/-- An entry is **clean** when it answers with a formula or fails with a fault in it. -/
def Clean (e : Entry) (grid : Option Grid) (ts : List Token) : Prop :=
  (∃ f, e.outcome grid ts = .ok f) ∨ ∃ f : Fault, e.outcome grid ts = .error (.fault f)

/-- An entry that fails otherwise than by a fault is not clean. -/
theorem not_clean_of_error {e : Entry} {x : Failure} (hx : x.isFault = false)
    (h : e.outcome grid ts = .error x) : ¬e.Clean grid ts := by
  rintro (⟨f, hf⟩ | ⟨f, hf⟩)
  · rw [h] at hf
    cases hf
  · rw [h] at hf
    obtain rfl := Except.error.inj hf
    cases hx

/-- A call without tokens fails. -/
theorem outcome_call_nil (grid : Option Grid) : call.outcome grid [] = .error .noTokens := by
  rw [outcome, call_eq, callOf]
  rfl

/-- An entry **stops at a reference** when it fails as that reference does. -/
def StopsAt (e : Entry) (grid : Option Grid) (ts : List Token) (ref : String) : Prop :=
  Stops (e.reading ts) (resolve grid) ref

/-- What an entry that is not clean stops at. -/
theorem exists_unconvertible {e : Entry} (h : ¬(e = .call ∧ ts = [])) (hclean : ¬e.Clean grid ts) :
    ∃ t ∈ ts, t.kind = .cellReference ∧ e.StopsAt grid ts t.text ∧ Unconvertible grid t.text := by
  cases houtcome : e.outcome grid ts with
  | ok f => exact absurd (Or.inl ⟨f, houtcome⟩) hclean
  | error x =>
      have hreading := houtcome
      rw [outcome_eq] at hreading
      obtain ⟨f, rfl, -⟩ | ⟨t, ht, hkind, hfail, hstop⟩ := (e.uniform h).failure_cases hreading
      · exact absurd (Or.inr ⟨f, houtcome⟩) hclean
      · obtain ⟨_, _, _, _, -, -, -, -, hok⟩ | ⟨reason, herr⟩ | hun := resolve_cases grid t.text
        · rw [hok] at hfail
          cases hfail
        · rw [herr] at hfail
          obtain rfl := Except.error.inj hfail
          exact absurd (Or.inr ⟨_, houtcome⟩) hclean
        · exact ⟨t, ht, hkind, hstop, hun⟩

/-- An entry that stops at an unconvertible reference is not clean. -/
theorem not_clean_of_stopsAt {e : Entry} {ref : String} (hstop : e.StopsAt grid ts ref)
    (hun : Unconvertible grid ref) : ¬e.Clean grid ts := by
  obtain ⟨x, hx, href⟩ := hun.resolve_eq
  refine not_clean_of_error hx ?_
  rw [outcome_eq]
  exact hstop.outcome_eq href

/-- **An entry is clean**, whatever the tokens and the grid, exactly when it is no call without
tokens and stops at no unconvertible reference. -/
theorem clean_iff_stops (e : Entry) (grid : Option Grid) (ts : List Token) :
    e.Clean grid ts ↔
      ¬(e = .call ∧ ts = []) ∧ ¬∃ ref, e.StopsAt grid ts ref ∧ Unconvertible grid ref := by
  constructor
  · refine fun hclean => ⟨?_, fun ⟨ref, hstop, hun⟩ => not_clean_of_stopsAt hstop hun hclean⟩
    rintro ⟨rfl, rfl⟩
    exact not_clean_of_error rfl (outcome_call_nil grid) hclean
  · rintro ⟨hcall, hstops⟩
    by_contra hclean
    obtain ⟨t, -, -, hstop, hun⟩ := exists_unconvertible hcall hclean
    exact hstops ⟨t.text, hstop, hun⟩

/-! ### Grids of texts -/

/-- Tokens whose references have **row numbers that can be read**. -/
def RowsReadable (ts : List Token) : Prop :=
  ∀ t ∈ ts, t.kind = .cellReference → ∀ letter ds, Address.parts? t.text = some (letter, ds) →
    ds.length ≤ Decimal.digitLimit

/-- A grid in which every value is a **text or nothing**. -/
def HoldsTexts (grid : Option Grid) : Prop :=
  ∀ g ∈ grid, ∀ a, g.valueAt a = .null ∨ ∃ s, g.valueAt a = .text s

/-- A frame holds texts. -/
theorem holdsTexts_frame (f : Frame) (selected : Option Address) :
    HoldsTexts (some ⟨.frame f, selected⟩) := by
  intro g hg a
  obtain rfl := Option.some.inj hg
  rw [Grid.valueAt]
  dsimp only
  split
  · exact Or.inl rfl
  · split
    · exact Or.inr ⟨_, rfl⟩
    · exact Or.inl rfl

/-- A reference that can be read is unconvertible in a grid of texts only below a number of rows
that cannot be written. -/
theorem rowCount_of_unconvertible (hcells : HoldsTexts grid) {ref : String}
    (hrow : ∀ letter ds, Address.parts? ref = some (letter, ds) →
      ds.length ≤ Decimal.digitLimit) (h : Unconvertible grid ref) :
    ∃ g a, grid = some g ∧ Address.ofRef ref = .ok a ∧ g.rowCount ≤ a.row ∧
      Decimal.writable g.rowCount = false := by
  cases h with
  | row hgrid hparts hlong => exact absurd (hrow _ _ hparts) (Nat.not_le.mpr hlong)
  | rowCount hgrid ha hle hwritable => exact ⟨_, _, hgrid, ha, hle, hwritable⟩
  | @cell g a hpoints htext =>
      rcases hcells g hpoints.grid_eq a with hnull | ⟨s, hs⟩
      · rw [hnull] at htext
        cases htext
      · rw [hs] at htext
        cases htext

/-- **When an entry of the reader is clean**, for references with row numbers that can be read, in a
grid of texts: exactly when it is no call without tokens, and does not stop at a reference below a
negative number of rows that is too long to be written. In a grid that has a number of rows it is
clean exactly when it is no call without tokens. -/
theorem clean_iff (hrows : RowsReadable ts) (hcells : HoldsTexts grid) (e : Entry) :
    (e.Clean grid ts ↔ ¬(e = .call ∧ ts = []) ∧
      ¬∃ g ref a, grid = some g ∧ e.StopsAt grid ts ref ∧ Address.ofRef ref = .ok a ∧
        g.rowCount ≤ a.row ∧ g.rowCount < 0 ∧ Decimal.writable g.rowCount = false) ∧
    ((∀ g ∈ grid, 0 ≤ g.rowCount) → (e.Clean grid ts ↔ ¬(e = .call ∧ ts = []))) := by
  have hnegative {g : Grid} {ref : String} {a : Address} (ha : Address.ofRef ref = .ok a)
      (hle : g.rowCount ≤ a.row) (hwritable : Decimal.writable g.rowCount = false) :
      g.rowCount < 0 := by
    by_contra hpos
    rw [Address.writable_of_le_row ha (Int.not_lt.mp hpos) hle] at hwritable
    cases hwritable
  have hexact : e.Clean grid ts ↔ ¬(e = .call ∧ ts = []) ∧
      ¬∃ g ref a, grid = some g ∧ e.StopsAt grid ts ref ∧ Address.ofRef ref = .ok a ∧
        g.rowCount ≤ a.row ∧ g.rowCount < 0 ∧ Decimal.writable g.rowCount = false := by
    constructor
    · intro hclean
      obtain ⟨hcall, hstops⟩ := (clean_iff_stops e grid ts).mp hclean
      refine ⟨hcall, ?_⟩
      rintro ⟨g, ref, a, hgrid, hstop, ha, hle, -, hwritable⟩
      exact hstops ⟨ref, hstop, .rowCount hgrid ha hle hwritable⟩
    · rintro ⟨hcall, hstops⟩
      by_contra hclean
      obtain ⟨t, ht, hkind, hstop, hun⟩ := exists_unconvertible hcall hclean
      obtain ⟨g, a, hgrid, ha, hle, hwritable⟩ :=
        rowCount_of_unconvertible hcells (hrows t ht hkind) hun
      exact hstops ⟨g, t.text, a, hgrid, hstop, ha, hle, hnegative ha hle hwritable, hwritable⟩
  refine ⟨hexact, fun hcounts => hexact.trans (and_iff_left ?_)⟩
  rintro ⟨g, ref, a, hgrid, -, -, -, hlt, -⟩
  exact absurd (hcounts g hgrid) (Int.not_le.mpr hlt)

/-- In `SIN(A1)` a cell with a number is referred to, and every entry reads it cleanly. -/
theorem clean_iff_reference : ∃ (ts : List Token) (grid : Grid),
    ts = [⟨.functionName, "SIN"⟩, ⟨.parenthesis, "("⟩, ⟨.cellReference, "A1"⟩,
      ⟨.parenthesis, ")"⟩] ∧
    grid = ⟨.frame ⟨["label", "A"], [[some "r", some "1"]]⟩, none⟩ ∧
    RowsReadable ts ∧ HoldsTexts (some grid) ∧ resolve (some grid) "A1" = .ok 1 ∧
    ∀ e : Entry, e.Clean (some grid) ts := by
  have hrows : RowsReadable [⟨.functionName, "SIN"⟩, ⟨.parenthesis, "("⟩,
      ⟨.cellReference, "A1"⟩, ⟨.parenthesis, ")"⟩] := by
    simp only [RowsReadable, List.forall_mem_cons]
    refine ⟨nofun, nofun, fun _ letter ds hparts => ?_, nofun, fun _ h => absurd h List.not_mem_nil⟩
    obtain rfl : ds = ['1'] := (Prod.mk.inj (Option.some.inj hparts)).2.symm
    decide
  have hcells := holdsTexts_frame ⟨["label", "A"], [[some "r", some "1"]]⟩ none
  refine ⟨_, _, rfl, rfl, hrows, hcells, rfl, fun e => ((clean_iff hrows hcells e).2 ?_).mpr ?_⟩
  · intro g hg
    obtain rfl := Option.some.inj hg
    exact Int.natCast_nonneg 1
  · rintro ⟨-, hnil⟩
    cases hnil

/-- **A call without tokens** is not clean. -/
theorem not_clean_call : RowsReadable [] ∧ HoldsTexts none ∧ ¬call.Clean none [] :=
  ⟨fun _ ht => absurd ht List.not_mem_nil, fun _ hg => absurd hg (Option.not_mem_none _),
    not_clean_of_error rfl (outcome_call_nil none)⟩

end Entry

end Reading

end SheetFormula
