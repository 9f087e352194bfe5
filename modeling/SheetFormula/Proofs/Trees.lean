import Mathlib.Algebra.GroupWithZero.Nat
import Mathlib.Data.List.Forall2
import SheetFormula.Formula.Evaluation

/-!
# Formulas as Trees

A formula holds lists of formulas, and so the functions on formulas come in pairs, one on a
formula and one on a list of them. Here the second of each pair is brought back to the first,
and induction over a formula assumes the statement for every argument of a call.

## Main results

* `Formula.induction`, `Formula.sameBy_induction`: **induction over formulas**, and over two that
  are the same.
* `Formula.nodes_eq_of_sameBy`: formulas that are the same have as many nodes.
* `Formula.sameBy_map_iff`: a formula with its leaves replaced is the same when each leaf is.
* `Formula.run_failure`: a failure of an evaluation comes from a leaf, from an operation or
  from an operator without a meaning.
-/

namespace SheetFormula

namespace Formula

variable {α ν : Type}

/-- **Induction over formulas**, with the statement for each argument of a call. -/
@[elab_as_elim]
theorem induction {motive : Formula α → Prop} (leaf : ∀ a, motive (.leaf a))
    (binary : ∀ operator l r, motive l → motive r → motive (.binary operator l r))
    (call : ∀ g args, (∀ f ∈ args, motive f) → motive (.call g args)) (f : Formula α) :
    motive f := by
  refine Formula.rec (motive_2 := fun fs => ∀ f ∈ fs, motive f) leaf binary call ?_ ?_ f
  · intro f hf
    cases hf
  · intro f fs hf hfs g hg
    obtain rfl | hg := List.mem_cons.mp hg
    · exact hf
    · exact hfs g hg

/-! ### Lists of formulas -/

/-- The leaves of a list of formulas are those of each of them in turn. -/
theorem leavesList_eq_flatMap (fs : List (Formula α)) : leavesList fs = fs.flatMap leaves := by
  induction fs with
  | nil => rfl
  | cons f r ih => rw [leavesList, ih, List.flatMap_cons]

/-- A list of formulas is written one by one. -/
theorem renderList_eq_map (leafText : α → String) (fs : List (Formula α)) :
    renderList leafText fs = fs.map (render leafText) := by
  induction fs with
  | nil => rfl
  | cons f r ih => rw [renderList, ih, List.map_cons]

/-- A list of formulas is evaluated one by one, up to the first failure. -/
theorem runList_eq_mapM (arith : Arithmetic ν) (read : α → Except Failure ν)
    (fs : List (Formula α)) : runList arith read fs = fs.mapM (run arith read) := by
  induction fs with
  | nil => rfl
  | cons f r ih => rw [runList, ih, List.mapM_cons]

/-- Two lists are the same when their members are, place by place. -/
theorem sameListBy_iff_forall₂ {eq : α → α → Bool} {fs gs : List (Formula α)} :
    sameListBy eq fs gs = true ↔ List.Forall₂ (fun f g => sameBy eq f g = true) fs gs := by
  induction fs generalizing gs with
  | nil => cases gs <;> simp [sameListBy]
  | cons f r ih =>
      cases gs with
      | nil => simp [sameListBy]
      | cons g s => rw [sameListBy, Bool.and_eq_true, ih, List.forall₂_cons]

/-- **Induction over two formulas that are the same**, place by place. -/
theorem sameBy_induction {eq : α → α → Bool} {motive : Formula α → Formula α → Prop}
    (leaf : ∀ a b, eq a b = true → motive (.leaf a) (.leaf b))
    (binary : ∀ operator l l' r r', motive l l' → motive r r' →
      motive (.binary operator l r) (.binary operator l' r'))
    (call : ∀ k args args', List.Forall₂ motive args args' →
      motive (.call k args) (.call k args'))
    {f g : Formula α} (h : sameBy eq f g = true) : motive f g := by
  induction f using Formula.induction generalizing g with
  | leaf a =>
      cases g with
      | leaf b => exact leaf a b h
      | binary | call => cases h
  | binary operator l r ihl ihr =>
      cases g with
      | binary operator' l' r' =>
          simp only [sameBy, Bool.and_eq_true, beq_iff_eq] at h
          obtain ⟨⟨rfl, hl⟩, hr⟩ := h
          exact binary operator l l' r r' (ihl hl) (ihr hr)
      | leaf | call => cases h
  | call k args ih =>
      cases g with
      | call k' args' =>
          simp only [sameBy, Bool.and_eq_true, beq_iff_eq, sameListBy_iff_forall₂] at h
          obtain ⟨rfl, hargs⟩ := h
          refine call k args args' ?_
          refine ((List.forall₂_and_left args _).mpr ⟨fun f hf => hf, hargs⟩).imp ?_
          rintro f g ⟨hf, hsame⟩
          exact ih f hf hsame
      | leaf | binary => cases h

/-! ### Counting and replacing -/

mutual

/-- The number of **operations and calls** of a formula. -/
def nodes : Formula α → Nat
  | .leaf _ => 0
  | .binary _ l r => nodes l + nodes r + 1
  | .call _ args => nodesList args + 1

def nodesList : List (Formula α) → Nat
  | [] => 0
  | f :: r => nodes f + nodesList r

end

mutual

/-- A formula with each of its leaves **replaced**. -/
def map {β : Type} (g : α → β) : Formula α → Formula β
  | .leaf a => .leaf (g a)
  | .binary operator l r => .binary operator (map g l) (map g r)
  | .call f args => .call f (mapList g args)

def mapList {β : Type} (g : α → β) : List (Formula α) → List (Formula β)
  | [] => []
  | f :: r => map g f :: mapList g r

end

/-- The nodes of a list of formulas are added up. -/
theorem nodesList_eq_sum (fs : List (Formula α)) : nodesList fs = (fs.map nodes).sum := by
  induction fs with
  | nil => rfl
  | cons f r ih => rw [nodesList, ih, List.map_cons, List.sum_cons]

/-- A list of formulas is mapped one by one. -/
theorem mapList_eq_map {β : Type} (g : α → β) (fs : List (Formula α)) :
    mapList g fs = fs.map (map g) := by
  induction fs with
  | nil => rfl
  | cons f r ih => rw [mapList, ih, List.map_cons]

/-- Formulas that are the same have **as many nodes**. -/
theorem nodes_eq_of_sameBy {eq : α → α → Bool} {f g : Formula α} (h : sameBy eq f g = true) :
    f.nodes = g.nodes := by
  refine sameBy_induction (motive := fun f g => f.nodes = g.nodes) ?_ ?_ ?_ h
  · intro a b _
    rfl
  · intro operator l l' r r' hl hr
    rw [nodes, nodes, hl, hr]
  · intro k args args' hargs
    have hmap : args.map nodes = args'.map nodes := by
      rwa [← List.forall₂_eq_eq_eq, List.forall₂_map_left_iff, List.forall₂_map_right_iff]
    rw [nodes, nodes, nodesList_eq_sum, nodesList_eq_sum, hmap]

/-- A formula with its leaves replaced is the same when **each leaf is**. -/
theorem sameBy_map_iff {eq : α → α → Bool} {g : α → α} {f : Formula α} :
    sameBy eq (f.map g) f = true ↔ ∀ a ∈ f.leaves, eq (g a) a = true := by
  induction f using Formula.induction with
  | leaf a => simp [map, sameBy, leaves]
  | binary operator l r ihl ihr =>
      simp only [map, sameBy, leaves, Bool.and_eq_true, beq_self_eq_true, true_and, ihl, ihr,
        List.forall_mem_append]
  | call k args ih =>
      simp only [map, sameBy, leaves, Bool.and_eq_true, beq_self_eq_true, true_and,
        sameListBy_iff_forall₂, mapList_eq_map, leavesList_eq_flatMap, List.mem_flatMap,
        List.forall₂_map_left_iff, List.forall₂_same]
      constructor
      · rintro h a ⟨f, hf, ha⟩
        exact (ih f hf).mp (h f hf) a ha
      · intro h f hf
        exact (ih f hf).mpr (fun a ha => h a ⟨f, hf, ha⟩)

/-- Mapping the leaves to themselves keeps a formula. -/
theorem map_id (f : Formula α) : f.map id = f := by
  induction f using Formula.induction with
  | leaf a => rfl
  | binary operator l r ihl ihr => rw [map, ihl, ihr]
  | call k args ih =>
      rw [map, mapList_eq_map]
      exact congrArg (call k) ((List.map_congr_left ih).trans (List.map_id args))

/-- A formula is the same as itself when each leaf is. -/
theorem sameBy_self_iff {eq : α → α → Bool} {f : Formula α} :
    sameBy eq f f = true ↔ ∀ a ∈ f.leaves, eq a a = true := by
  have h : sameBy eq (f.map id) f = true ↔ ∀ a ∈ f.leaves, eq (id a) a = true := sameBy_map_iff
  rwa [map_id] at h

end Formula

/-! ### Failures of an evaluation -/

/-- An arithmetic **fails within** a class of failures when all of its operations do. -/
structure Arithmetic.FailsWithin {ν : Type} (arith : Arithmetic ν) (P : Failure → Prop) :
    Prop where
  add : ∀ x y e, arith.add x y = .error e → P e
  sub : ∀ x y e, arith.sub x y = .error e → P e
  mul : ∀ x y e, arith.mul x y = .error e → P e
  div : ∀ x y e, arith.div x y = .error e → P e
  apply : ∀ g xs e, arith.apply g xs = .error e → P e
  divisionByZero : P (.fault .divisionByZero)

namespace Formula

variable {α ν : Type}

/-- Values one after another fail as one of them does. -/
theorem mapM_failure {μ β : Type} {k : β → Trace μ Failure ν} {xs : List β} {e : Failure}
    (h : (xs.mapM k).outcome = .error e) : ∃ x ∈ xs, (k x).outcome = .error e := by
  induction xs with
  | nil => cases h
  | cons x r ih =>
      rw [List.mapM_cons, Trace.outcome_bind_eq_error_iff] at h
      obtain h | ⟨y, -, h⟩ := h
      · exact ⟨x, List.mem_cons_self, h⟩
      · rw [Trace.outcome_bind_eq_error_iff] at h
        obtain h | ⟨ys, -, h⟩ := h
        · obtain ⟨z, hz, hk⟩ := ih h
          exact ⟨z, List.mem_cons_of_mem _ hz, hk⟩
        · cases h

/-- An operation on two values fails as one of its sides or as the operation itself. -/
theorem operation_failure {P : Failure → Prop} {x y : Trace α Failure ν}
    {operation : ν → ν → Except Failure ν} {e : Failure}
    (h : (do let a ← x; let b ← y; operation a b : Trace α Failure ν).outcome = .error e)
    (hx : x.outcome = .error e → P e) (hy : y.outcome = .error e → P e)
    (hoperation : ∀ a b e, operation a b = .error e → P e) : P e := by
  simp only [Trace.outcome_bind_eq_error_iff] at h
  obtain h | ⟨a, -, h | ⟨b, -, h⟩⟩ := h
  · exact hx h
  · exact hy h
  · exact hoperation a b e h

/-- **A failure of an evaluation** comes from a leaf, from an operation, or from an operator
without a meaning. -/
theorem run_failure {arith : Arithmetic ν} {read : α → Except Failure ν} {P : Failure → Prop}
    (harith : arith.FailsWithin P) (hread : ∀ a e, read a = .error e → P e)
    (hoperator : ∀ operator, P (.fault (.unsupportedOperator operator))) {f : Formula α}
    {e : Failure} (h : (f.run arith read).outcome = .error e) : P e := by
  induction f using Formula.induction generalizing e with
  | leaf a =>
      rw [run, Trace.outcome_bind_eq_error_iff] at h
      obtain h | ⟨-, -, h⟩ := h
      · cases h
      · exact hread a e h
  | binary operator l r ihl ihr =>
      rw [run] at h
      split at h
      · exact operation_failure h ihl ihr harith.add
      split at h
      · exact operation_failure h ihl ihr harith.sub
      split at h
      · exact operation_failure h ihl ihr harith.mul
      split at h
      · rw [Trace.outcome_bind_eq_error_iff] at h
        obtain h | ⟨y, -, h⟩ := h
        · exact ihr h
        · split at h
          · rw [Trace.outcome_bind_eq_error_iff] at h
            obtain h | ⟨_, h, _⟩ := h
            · cases h
              exact harith.divisionByZero
            · cases h
          · simp only [Trace.outcome_bind_eq_error_iff] at h
            obtain h | ⟨x, -, h⟩ := h
            · exact ihl h
            · exact harith.div x y e h
      · cases h
        exact hoperator operator
  | call g args ih =>
      rw [run, runList_eq_mapM, Trace.outcome_bind_eq_error_iff] at h
      obtain h | ⟨xs, -, h⟩ := h
      · obtain ⟨f, hf, hfail⟩ := mapM_failure h
        exact ih f hf hfail
      · exact harith.apply g xs e h

end Formula

end SheetFormula
