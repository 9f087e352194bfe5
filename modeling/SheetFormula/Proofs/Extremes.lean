import SheetFormula.Function.Apply
import SheetFormula.Proofs.SameNumber

/-!
# The Greatest and the Least Argument

Among doubles that are numbers, infinities included, the order is that of their ranks. The greatest
argument is then the one of the highest rank, wherever it stands, up to the sign of a zero.

A double that is not a number is neither below nor above another one. So it never takes the place
of the argument that is best so far, and is never replaced when it is the first one itself: the
first argument is the only one whose place counts.

## Main results

* `Double.compare_rank`: **numbers compare as their ranks do**.
* `Function.foremost_firstBy`: what is left of the arguments is the foremost one.
* `Arithmetic.apply_extreme_of_perm`: **when the order of arguments does not count**.
-/

namespace SheetFormula

/-! ### The rank of a number -/

namespace Double

open Float.Model (UnpackedFloat)

/-- The **rank** of parts among all that are numbers: infinities come first and last, both zeros
are of one rank, and other numbers are ranked by their exponent before their significand. -/
def rank : UnpackedFloat → ℤ ×ₗ ℤ ×ₗ ℤ
  | .infinity .negative => toLex (-2, toLex (0, 0))
  | .finite .negative m e _ => toLex (-1, toLex (-e, -m))
  | .notANumber | .zero _ => toLex (0, toLex (0, 0))
  | .finite .positive m e _ => toLex (1, toLex (e, m))
  | .infinity .positive => toLex (2, toLex (0, 0))

/-- Natural numbers are compared like integers. -/
theorem compare_natCast (m n : ℕ) : compare (m : ℤ) n = compare m n := by
  rw [LinearOrder.compare_eq_compareOfLessAndEq, LinearOrder.compare_eq_compareOfLessAndEq]
  simp only [compareOfLessAndEq, Nat.cast_lt, Nat.cast_inj]

/-- Opposite integers are compared the other way round. -/
theorem compare_neg (i j : ℤ) : compare (-i) (-j) = (compare i j).swap := by
  rw [Int.compare_swap, LinearOrder.compare_eq_compareOfLessAndEq,
    LinearOrder.compare_eq_compareOfLessAndEq]
  simp only [compareOfLessAndEq, neg_lt_neg_iff, neg_inj, eq_comm]

/-- Within one class doubles are compared by exponent and then by significand. -/
theorem compare_toLex (k e e' i i' : ℤ) :
    compare (toLex (k, toLex (e, i))) (toLex (k, toLex (e', i'))) =
      (compare e e').then (compare i i') := by
  simp only [Prod.Lex.compare_def, compareLex, compareOn, ofLex_toLex,
    Std.ReflOrd.compare_self, Ordering.eq_then]

/-- **Numbers compare as their ranks do**: those of one sign by exponent and significand, others by
their sign. -/
theorem compare_rank {u v : UnpackedFloat} (hu : u ≠ .notANumber) (hv : v ≠ .notANumber) :
    u.compare v = some (compare (rank u) (rank v)) := by
  cases u with
  | notANumber => exact absurd rfl hu
  | infinity s =>
      cases v with
      | notANumber => exact absurd rfl hv
      | zero t => cases s <;> rfl
      | infinity t | finite t n k hn => cases s <;> cases t <;> rfl
  | zero s =>
      cases v with
      | notANumber => exact absurd rfl hv
      | zero t => rfl
      | infinity t | finite t n k hn => cases t <;> rfl
  | finite s m e hm =>
      cases v with
      | notANumber => exact absurd rfl hv
      | infinity t => cases s <;> cases t <;> rfl
      | zero t => cases s <;> rfl
      | finite t n k hn =>
          cases s with
          | positive =>
              cases t with
              | negative => rfl
              | positive =>
                  rw [rank, rank, compare_toLex, compare_natCast]
                  rfl
          | negative =>
              cases t with
              | positive => rfl
              | negative =>
                  rw [rank, rank, compare_toLex, compare_neg, compare_neg, compare_natCast,
                    ← Ordering.swap_then]
                  rfl

variable {x y : Float}

/-- One double is below another when both are numbers, and its rank is the lower one. -/
theorem lt_iff_rank_lt :
    x < y ↔ x.isNaN = false ∧ y.isNaN = false ∧ rank (parts x) < rank (parts y) := by
  rw [lt_iff, isNaN_eq_false_iff, isNaN_eq_false_iff]
  by_cases hx : parts x = .notANumber
  · simp [hx, UnpackedFloat.compare]
  · by_cases hy : parts y = .notANumber
    · have hnone : (parts x).compare .notANumber = none := by cases parts x <;> rfl
      simp [hy, hnone]
    · rw [compare_rank hx hy, Option.some.injEq, compare_lt_iff_lt]
      simp [hx, hy]

/-- Numbers of one rank are the same number. -/
theorem same_of_rank_eq (hx : x.isNaN = false) (hy : y.isNaN = false)
    (h : rank (parts x) = rank (parts y)) : Same x y := by
  refine Or.inl ?_
  rw [beq_eq, UnpackedFloat.beq,
    compare_rank (isNaN_eq_false_iff.mp hx) (isNaN_eq_false_iff.mp hy), h,
    Std.ReflOrd.compare_self]
  rfl

end Double

/-! ### The foremost argument -/

namespace Function

open Double (Same rank parts)

variable {κ : Type} [LinearOrder κ] {before : Float → Float → Bool} {key : Float → κ}
  {xs ys : List Float} {x y a b : Float}

/-- A comparison **goes by a key** when it holds between numbers alone, and between these as it
does between their keys. -/
def GoesBy (before : Float → Float → Bool) (key : Float → κ) : Prop :=
  ∀ x y, before x y = true ↔ x.isNaN = false ∧ y.isNaN = false ∧ key x < key y

/-- A double is **foremost** in a list when it is a number of the list and the key of no other one
comes before its key. -/
structure Foremost (key : Float → κ) (xs : List Float) (a : Float) : Prop where
  mem : a ∈ xs
  number : a.isNaN = false
  le : ∀ x ∈ xs, x.isNaN = false → key a ≤ key x

/-- What is foremost is so in any order. -/
theorem Foremost.of_perm (h : Foremost key xs a) (hperm : xs.Perm ys) : Foremost key ys a where
  mem := hperm.mem_iff.mp h.mem
  number := h.number
  le x hx := h.le x (hperm.mem_iff.mpr hx)

/-- Two values that are foremost have one key. -/
theorem Foremost.key_eq (h : Foremost key xs a) (h' : Foremost key xs b) : key a = key b :=
  le_antisymm (h.le b h'.mem h'.number) (h'.le a h.mem h.number)

/-- What is not a number is never replaced. -/
theorem firstBy_of_isNaN (hkey : GoesBy before key) (hx : x.isNaN = true) (r : List Float) :
    firstBy before x r = x := by
  induction r with
  | nil => rfl
  | cons y r ih =>
      have hbefore : before y x = false := by
        rw [Bool.eq_false_iff]
        intro h
        rw [((hkey y x).mp h).2.1] at hx
        cases hx
      rw [firstBy, List.foldl_cons, hbefore]
      exact ih

/-- **The foremost argument is left** when the first one is a number. -/
theorem foremost_firstBy (hkey : GoesBy before key) (hx : x.isNaN = false) (r : List Float) :
    Foremost key (x :: r) (firstBy before x r) := by
  induction r generalizing x with
  | nil =>
      refine ⟨List.mem_cons_self, hx, fun y hy _ => ?_⟩
      obtain rfl := List.mem_singleton.mp hy
      exact le_rfl
  | cons y r ih =>
      rw [firstBy, List.foldl_cons]
      cases hbefore : before y x with
      | true =>
          obtain ⟨hy, -, hlt⟩ := (hkey y x).mp hbefore
          obtain ⟨hmem, hnumber, hle⟩ := ih hy
          refine ⟨List.mem_cons_of_mem x hmem, hnumber, ?_⟩
          refine List.forall_mem_cons.mpr ⟨fun _ => ?_, hle⟩
          exact (hle y List.mem_cons_self hy).trans hlt.le
      | false =>
          obtain ⟨hmem, hnumber, hle⟩ := ih hx
          have hfirst := hle x List.mem_cons_self hx
          refine ⟨?_, hnumber, ?_⟩
          · exact List.cons_subset_cons x (List.subset_cons_self y r) hmem
          · refine List.forall_mem_cons.mpr ⟨fun _ => hfirst, ?_⟩
            refine List.forall_mem_cons.mpr
              ⟨fun hy => ?_, fun z hz => hle z (List.mem_cons_of_mem x hz)⟩
            refine hfirst.trans (le_of_not_gt fun hlt => ?_)
            rw [(hkey y x).mpr ⟨hy, hx, hlt⟩] at hbefore
            cases hbefore

/-- The best of some values is not a number exactly when the first one is not. -/
theorem isNaN_firstBy (hkey : GoesBy before key) (x : Float) (r : List Float) :
    (firstBy before x r).isNaN = x.isNaN := by
  cases hx : x.isNaN with
  | true => rw [firstBy_of_isNaN hkey hx, hx]
  | false => exact (foremost_firstBy hkey hx r).number

/-- What is left of the arguments in two orders is the same number exactly when both begin with a
number, or neither does. -/
theorem same_firstBy_iff (hkey : GoesBy before key)
    (hrank : ∀ {x y}, key x = key y → rank (parts x) = rank (parts y)) {r s : List Float}
    (hperm : (x :: r).Perm (y :: s)) :
    Same (firstBy before x r) (firstBy before y s) ↔ x.isNaN = y.isNaN := by
  have hfirst := isNaN_firstBy hkey x r
  have hsecond := isNaN_firstBy hkey y s
  refine ⟨fun h => hfirst.symm.trans (h.isNaN_eq.trans hsecond), fun heq => ?_⟩
  cases hx : x.isNaN with
  | true => exact Or.inr ⟨hfirst.trans hx, hsecond.trans (heq.symm.trans hx)⟩
  | false =>
      have hforemost := foremost_firstBy hkey hx r
      have hforemost' := foremost_firstBy hkey (heq.symm.trans hx) s
      exact Double.same_of_rank_eq hforemost.number hforemost'.number
        (hrank ((hforemost.of_perm hperm).key_eq hforemost'))

/-- Among numbers nothing comes before what is left, in one order or another. -/
theorem extreme_firstBy (hkey : GoesBy before key)
    (hrank : ∀ {x y}, key x = key y → rank (parts x) = rank (parts y)) {r s : List Float}
    (hperm : (x :: r).Perm (y :: s)) (hnumbers : ∀ z ∈ x :: r, z.isNaN = false) :
    Same (firstBy before x r) (firstBy before y s) ∧ firstBy before x r ∈ x :: r ∧
      ∀ z ∈ x :: r, before z (firstBy before x r) = false := by
  have hx := hnumbers x List.mem_cons_self
  have hy := hnumbers y (hperm.mem_iff.mpr List.mem_cons_self)
  have hforemost := foremost_firstBy hkey hx r
  refine ⟨(same_firstBy_iff hkey hrank hperm).mpr (hx.trans hy.symm), hforemost.mem, ?_⟩
  intro z hz
  rw [Bool.eq_false_iff]
  intro h
  exact absurd ((hkey _ _).mp h).2.2 (hforemost.le z hz (hnumbers z hz)).not_gt

end Function

/-! ### The values of `MAX` and `MIN` -/

namespace Arithmetic

open SheetFormula.Function (GoesBy firstBy)
open Double (Same rank parts)

/-- The least value goes by the rank. -/
theorem goesBy_min : GoesBy (· < ·) (fun x => rank (parts x)) := fun _ _ =>
  decide_eq_true_iff.trans Double.lt_iff_rank_lt

/-- The greatest value goes by the rank the other way round. -/
theorem goesBy_max :
    GoesBy (fun x best => best < x) (fun x => OrderDual.toDual (rank (parts x))) := by
  intro x y
  rw [decide_eq_true_iff, Double.lt_iff_rank_lt, OrderDual.toDual_lt_toDual]
  exact and_left_comm

/-- Whether the first of some doubles **is no number**. -/
def startsNaN (xs : List Float) : Bool := xs.head?.any Float.isNaN

/-- **When the order of arguments does not count**: the greatest or least of some arguments is the
same number in two orders exactly when both begin with a number or neither does. When all arguments
are numbers it is one of them, and none of them is greater or less. -/
theorem apply_extreme_of_perm {g : Function} (hg : g = .max ∨ g = .min) {xs ys : List Float}
    (hne : xs ≠ []) (hperm : xs.Perm ys) :
    ∃ x y, floats.apply g xs = .ok x ∧ floats.apply g ys = .ok y ∧
      (Same x y ↔ startsNaN xs = startsNaN ys) ∧
      ((∀ z ∈ xs, z.isNaN = false) → Same x y ∧ x ∈ xs ∧
        (g = .max → ∀ z ∈ xs, ¬ x < z) ∧ (g = .min → ∀ z ∈ xs, ¬ z < x)) := by
  obtain ⟨x, r, rfl⟩ := List.exists_cons_of_ne_nil hne
  have hne' : ys ≠ [] := by
    rintro rfl
    exact hne hperm.eq_nil
  obtain ⟨y, s, rfl⟩ := List.exists_cons_of_ne_nil hne'
  obtain rfl | rfl := hg
  · have hrank {x y : Float} (h : OrderDual.toDual (rank (parts x)) =
        OrderDual.toDual (rank (parts y))) : rank (parts x) = rank (parts y) := h
    refine ⟨_, _, rfl, rfl, Function.same_firstBy_iff goesBy_max hrank hperm, fun hnumbers => ?_⟩
    obtain ⟨hsame, hmem, hextreme⟩ := Function.extreme_firstBy goesBy_max hrank hperm hnumbers
    exact ⟨hsame, hmem, fun _ z hz => of_decide_eq_false (hextreme z hz), fun h => by cases h⟩
  · refine ⟨_, _, rfl, rfl, Function.same_firstBy_iff goesBy_min id hperm, fun hnumbers => ?_⟩
    obtain ⟨hsame, hmem, hextreme⟩ := Function.extreme_firstBy goesBy_min id hperm hnumbers
    exact ⟨hsame, hmem, fun h => (by cases h), fun _ z hz => of_decide_eq_false (hextreme z hz)⟩

/-- The order of `1`, `3` and `2` does not count. -/
theorem apply_extreme_of_perm_numbers : ∃ x y, floats.apply .max [1, 3, 2] = .ok x ∧
    floats.apply .max [2, 3, 1] = .ok y ∧ Same x y ∧ ∀ z ∈ [(1 : Float), 3, 2], ¬ x < z := by
  have hperm : [(1 : Float), 3, 2].Perm [2, 3, 1] := List.reverse_perm [2, 3, 1]
  obtain ⟨x, y, hx, hy, -, hnumbers⟩ :=
    apply_extreme_of_perm (Or.inl rfl) (List.cons_ne_nil 1 [3, 2]) hperm
  obtain ⟨hsame, -, hgreatest, -⟩ := hnumbers (by decide)
  exact ⟨x, y, hx, hy, hsame, hgreatest rfl⟩

/-- **The order counts** when one argument is not a number: the greatest of this and a number is the
one that comes first. -/
theorem apply_extreme_perm_ne : [(0 / 0 : Float), 1].Perm [1, 0 / 0] ∧
    floats.apply .max [0 / 0, 1] = .ok (0 / 0) ∧ floats.apply .max [1, 0 / 0] = .ok 1 ∧
    ¬ Same (0 / 0) 1 := by
  refine ⟨.swap _ _ _, rfl, rfl, ?_⟩
  rw [Same]
  decide

end Arithmetic

end SheetFormula
