import SheetFormula.Proofs.Parsing
import SheetFormula.Proofs.SameNumber
import SheetFormula.Proofs.Trees

/-!
# Equal Trees

Trees are compared by value: they are equal when they have one shape, with equal operators,
functions and numbers. A double that is not a number is not equal to itself, and so a tree that
holds one is equal to no other tree.

A tree is an object as well. Compared with itself it is taken apart down to its calls, whose
arguments are not looked at any more when they are the same objects. What is not a number makes a
tree differ from itself only outside of all calls.

## Main results

* `Formula.sameBy_symm`, `Formula.sameBy_trans`: comparing by value is symmetric and transitive
  when it is so for leaves.
* `Formula.digest_eq_of_same`: trees that are equal by value have one digest.
* `Computation.equalAt_of_parse`: **which trees of some tokens are equal**.
-/

namespace SheetFormula

/-! ### Equal doubles -/

namespace Double

variable {x y z : Float}

/-- Doubles are equal when they are the same and numbers. -/
theorem beq_iff_same : (x == y) = true ↔ Same x y ∧ x.isNaN = false := by
  refine ⟨fun h => ⟨Or.inl h, ?_⟩, fun ⟨h, hx⟩ => ?_⟩
  · rw [isNaN_eq_false_iff]
    exact ((Float.Model.UnpackedFloat.beq_iff_ne_notANumber_and_eq _ _).mp h).1
  · obtain h | ⟨hnan, -⟩ := h
    · exact h
    · rw [hx] at hnan
      cases hnan

/-- Doubles that are equal are equal in the other order, and with all that is equal to them. -/
instance partialEquivBEq_float : PartialEquivBEq Float where
  symm h := by
    obtain ⟨hsame, hx⟩ := beq_iff_same.mp h
    exact beq_iff_same.mpr ⟨Same.symm hsame, (Same.isNaN_eq hsame).symm.trans hx⟩
  trans h h' := by
    obtain ⟨hsame, hx⟩ := beq_iff_same.mp h
    exact beq_iff_same.mpr ⟨hsame.trans (beq_iff_same.mp h').1, hx⟩

/-- A double equals itself when it is a number. -/
theorem beq_self_iff : (x == x) = true ↔ x.isNaN = false :=
  beq_iff_same.trans (and_iff_right (.refl x))

/-- Doubles that are equal are one, unless they are zero. -/
theorem eq_of_beq_of_ne (h : (x == y) = true) (hx : (x == 0) = false) : x = y := by
  obtain hparts | ⟨s, -, hs, -⟩ := near_of_beq h
  · exact (ofParts_parts x).symm.trans ((congrArg ofParts hparts).trans (ofParts_parts y))
  · exact absurd hs (parts_ne_zero hx s)

end Double

namespace Formula

variable {α : Type}

/-- Equal doubles have one key. -/
theorem floatKey_eq {x y : Float} (h : (x == y) = true) : floatKey x = floatKey y := by
  cases hx : x == 0 with
  | true =>
      have hy : (y == 0) = true := BEq.trans (BEq.symm h) hx
      rw [floatKey, floatKey, if_pos hx, if_pos hy]
  | false => rw [Double.eq_of_beq_of_ne h hx]

/-! ### Trees that are the same -/

section PartialEquivalence

variable [BEq α] [PartialEquivBEq α] {f g k : Formula α}

/-- To be equal by value is symmetric. -/
theorem sameBy_symm (h : sameBy (· == ·) f g = true) : sameBy (· == ·) g f = true := by
  refine sameBy_induction (motive := fun f g => sameBy (· == ·) g f = true) ?_ ?_ ?_ h
  · intro a b hab
    exact BEq.symm hab
  · intro operator l l' r r' hl hr
    simp only [sameBy, Bool.and_eq_true, beq_self_eq_true, true_and]
    exact ⟨hl, hr⟩
  · intro k args args' hargs
    simp only [sameBy, Bool.and_eq_true, beq_self_eq_true, true_and, sameListBy_iff_forall₂]
    exact hargs.flip

/-- Lists are related when each member of the first hands on what its partner is related to. -/
theorem forall₂_of_handsOn {β : Type} {R S : β → β → Prop} {bs cs ds : List β}
    (h : List.Forall₂ (fun b c => ∀ d, R c d → S b d) bs cs) (h' : List.Forall₂ R cs ds) :
    List.Forall₂ S bs ds := by
  induction h generalizing ds with
  | nil =>
      cases h'
      exact .nil
  | cons hbc _ ih =>
      cases h' with
      | cons hcd h' => exact .cons (hbc _ hcd) (ih h')

/-- To be equal by value is transitive. -/
theorem sameBy_trans (h : sameBy (· == ·) f g = true) (h' : sameBy (· == ·) g k = true) :
    sameBy (· == ·) f k = true := by
  refine sameBy_induction (motive := fun f g =>
    ∀ k, sameBy (· == ·) g k = true → sameBy (· == ·) f k = true) ?_ ?_ ?_ h k h'
  · intro a b hab k hk
    cases k with
    | leaf c => exact BEq.trans hab hk
    | binary | call => cases hk
  · intro operator l l' r r' hl hr k hk
    cases k with
    | binary operator' l'' r'' =>
        simp only [sameBy, Bool.and_eq_true] at hk ⊢
        exact ⟨⟨hk.1.1, hl l'' hk.1.2⟩, hr r'' hk.2⟩
    | leaf | call => cases hk
  · intro k args args' hargs k' hk
    cases k' with
    | call k' args'' =>
        simp only [sameBy, Bool.and_eq_true, sameListBy_iff_forall₂] at hk ⊢
        exact ⟨hk.1, forall₂_of_handsOn hargs hk.2⟩
    | leaf | binary => cases hk

end PartialEquivalence

/-! ### Trees as objects -/

/-- The leaves of a formula **outside of all calls**. -/
def outerLeaves : Formula α → List α
  | .leaf a => [a]
  | .binary _ l r => outerLeaves l ++ outerLeaves r
  | .call _ _ => []

/-- A tree is equal to itself as an object when its leaves outside of calls are. -/
theorem sameItself_iff {eq : α → Bool} {f : Formula α} :
    f.sameItself eq = true ↔ ∀ a ∈ f.outerLeaves, eq a = true := by
  induction f using Formula.induction with
  | leaf a => simp [sameItself, outerLeaves]
  | binary operator l r ihl ihr =>
      rw [sameItself, Bool.and_eq_true, ihl, ihr, outerLeaves, List.forall_mem_append]
  | call k args _ => simp [sameItself, outerLeaves]

/-- The leaves outside of calls are leaves. -/
theorem outerLeaves_subset (f : Formula α) : f.outerLeaves ⊆ f.leaves := by
  induction f using Formula.induction with
  | leaf a => exact List.Subset.refl _
  | binary operator l r ihl ihr =>
      exact List.append_subset.mpr ⟨List.subset_append_of_subset_left _ ihl,
        List.subset_append_of_subset_right _ ihr⟩
  | call k args _ => exact List.nil_subset _

/-- Trees that are equal by value have **one digest**. -/
theorem digest_eq_of_same {f g : Formula Float} (h : f.same g = true) : f.digest = g.digest := by
  refine sameBy_induction (motive := fun f g => f.digest = g.digest) ?_ ?_ ?_ h
  · intro x y hxy
    rw [digest, digest, floatKey_eq hxy]
  · intro operator l l' r r' hl hr
    rw [digest, digest, hl, hr]
  · intro k args args' hargs
    have hlist : digestList args = digestList args' := by
      induction hargs with
      | nil => rfl
      | cons hdigest _ ih => rw [digestList, digestList, hdigest, ih]
    rw [digest, digest, hlist]

/-- A tree is equal by value to another one that is the same **when all its leaves are numbers**. -/
theorem same_self_iff {f : Formula Float} :
    f.same f = true ↔ ∀ x ∈ f.leaves, x.isNaN = false :=
  sameBy_self_iff.trans (forall₂_congr fun _ _ => Double.beq_self_iff)

variable {ι : Type} [DecidableEq ι] {tree : ι → Formula Float} {i j k : ι}

/-- An object is compared with itself as one. -/
theorem equalAt_self (i : ι) : equalAt tree i i = (tree i).sameItself fun x => x == x := if_pos rfl

/-- Two objects are compared by value. -/
theorem equalAt_of_ne (h : i ≠ j) : equalAt tree i j = (tree i).same (tree j) := if_neg h

/-- An object is equal to itself when its leaves outside of calls are numbers. -/
theorem equalAt_self_iff :
    equalAt tree i i = true ↔ ∀ x ∈ (tree i).outerLeaves, x.isNaN = false := by
  rw [equalAt_self, sameItself_iff]
  exact forall₂_congr fun _ _ => Double.beq_self_iff

/-- Trees that are equal by value are equal as objects, were they one object or two. -/
theorem equalAt_of_same (h : (tree i).same (tree j) = true) : equalAt tree i j = true := by
  by_cases hij : i = j
  · subst hij
    exact equalAt_self_iff.mpr fun x hx => same_self_iff.mp h x (outerLeaves_subset _ hx)
  · rwa [equalAt_of_ne hij]

/-- To be equal is symmetric. -/
theorem equalAt_symm (h : equalAt tree i j = true) : equalAt tree j i = true := by
  by_cases hij : i = j
  · rwa [← hij] at h ⊢
  · rw [equalAt_of_ne hij] at h
    exact equalAt_of_same (sameBy_symm h)

/-- To be equal is transitive. -/
theorem equalAt_trans (h : equalAt tree i j = true) (h' : equalAt tree j k = true) :
    equalAt tree i k = true := by
  by_cases hij : i = j
  · rwa [hij]
  · by_cases hjk : j = k
    · rwa [← hjk]
    · rw [equalAt_of_ne hij] at h
      rw [equalAt_of_ne hjk] at h'
      exact equalAt_of_same (sameBy_trans h h')

/-- Equal trees have one digest. -/
theorem digest_eq_of_equalAt (h : equalAt tree i j = true) : (tree i).digest = (tree j).digest := by
  by_cases hij : i = j
  · rw [hij]
  · rw [equalAt_of_ne hij] at h
    exact digest_eq_of_same h

end Formula

namespace Computation

open Formula (equalAt)

/-- **Which trees of some tokens are equal.** The tree that some tokens are read as is equal to
itself when it has only numbers outside of its calls, and to what they are read as once more when
all its leaves are numbers. Trees that are equal have one digest, and being equal is symmetric and
transitive. -/
theorem equalAt_of_parse {ι : Type} [DecidableEq ι] {tree : ι → Formula Float}
    {grid : Option Grid} {ts : List Token} {i : ι} (h : (parse grid ts).outcome = .ok (tree i)) :
    (equalAt tree i i = true ↔ ∀ x ∈ (tree i).outerLeaves, x.isNaN = false) ∧
    (∀ j, j ≠ i → (parse grid ts).outcome = .ok (tree j) →
      (equalAt tree i j = true ↔ ∀ x ∈ (tree i).leaves, x.isNaN = false)) ∧
    (∀ i j, equalAt tree i j = true → (tree i).digest = (tree j).digest) ∧
    (∀ i j, equalAt tree i j = true → equalAt tree j i = true) ∧
    ∀ i j k, equalAt tree i j = true → equalAt tree j k = true → equalAt tree i k = true := by
  refine ⟨Formula.equalAt_self_iff, fun j hj hparse => ?_,
    fun i j => Formula.digest_eq_of_equalAt, fun i j => Formula.equalAt_symm,
    fun i j k => Formula.equalAt_trans⟩
  have htree : tree i = tree j := Except.ok.inj (h.symm.trans hparse)
  rw [Formula.equalAt_of_ne hj.symm, ← htree, Formula.same_self_iff]

/-- Two trees of a reference to a cell with `5` are equal. -/
theorem equalAt_of_parse_five : ∃ (grid : Grid) (tree : Bool → Formula Float),
    grid = ⟨.sparse 1 [(⟨0, 1⟩, .text "5")], none⟩ ∧
    (∀ i, (parse (some grid) [⟨.cellReference, "A1"⟩]).outcome = .ok (tree i)) ∧
    equalAt tree true true = true ∧ equalAt tree true false = true := by
  let grid : Grid := ⟨.sparse 1 [(⟨0, 1⟩, .text "5")], none⟩
  let tree : Bool → Formula Float := fun _ => .leaf 5
  have hparse (i : Bool) :
      (parse (some grid) [⟨.cellReference, "A1"⟩]).outcome = .ok (tree i) := parse_reference rfl
  have hnumbers : ∀ x ∈ (tree true).leaves, x.isNaN = false := by decide
  obtain ⟨hself, hagain, -⟩ := equalAt_of_parse (hparse true)
  exact ⟨grid, tree, rfl, hparse, hself.mpr hnumbers,
    (hagain false Bool.false_ne_true (hparse false)).mpr hnumbers⟩

/-- **Trees of the same tokens are not equal** when the cell that these refer to holds what is not a
number, nor is a tree of them equal to itself. -/
theorem not_equalAt_of_parse : ∃ (grid : Grid) (tree : Bool → Formula Float),
    grid = ⟨.sparse 1 [(⟨0, 1⟩, .text "nan")], none⟩ ∧
    (∀ i, (parse (some grid) [⟨.cellReference, "A1"⟩]).outcome = .ok (tree i)) ∧
    equalAt tree true true = false ∧ equalAt tree true false = false := by
  refine ⟨_, fun _ => .leaf (0.0 / 0.0), rfl, fun _ => parse_reference rfl, ?_, ?_⟩
  · decide
  · decide

end Computation

end SheetFormula
