import Mathlib.Data.List.Perm.Subperm
import SheetFormula.Proofs.Trees

/-!
# The Order of an Evaluation

An evaluation takes a formula in steps: it visits leaves, tests divisors, performs operations
and applies functions, and gives up at operators without a meaning. In which order it does so
is a matter of the formula alone. What a step does is a matter of the values below it alone,
and a value is that of a formula in which nothing fails, in whatever order it is found.

An evaluation takes its steps one by one up to the first that fails, and its failure is that
of this step. So the leaves that it visits are a beginning of the leaves in its order, and
where it succeeds they are all leaves, each of them once.

## Main results

* `Follows.bind`: **computations follow their steps one after the other**.
* `run_follows`: an evaluation follows the steps of its formula.
* `order_subperm_leaves`: no leaf comes twice in the order of a formula.
* `run_order`: **which leaves are visited, and which failure is reported**.
-/

namespace SheetFormula

/-- The failure of an outcome, if it is one. -/
def failureOf? {ε α : Type} : Except ε α → Option ε
  | .ok _ => none
  | .error e => some e

/-- What answers before another computation puts its notes in front. -/
theorem Trace.ok_bind {ν ε α β : Type} (notes : List ν) (a : α) (k : α → Trace ν ε β) :
    (⟨notes, .ok a⟩ >>= k : Trace ν ε β) = ⟨notes ++ (k a).notes, (k a).outcome⟩ := rfl

/-- The **operation** of an operator on two values. -/
def Arithmetic.operate {ν : Type} (arith : Arithmetic ν) (operator : String) (x y : ν) :
    Except Failure ν :=
  if operator = "+" then arith.add x y
  else if operator = "-" then arith.sub x y
  else if operator = "*" then arith.mul x y
  else if operator = "/" then
    if arith.isZero y then refuse .divisionByZero else arith.div x y
  else refuse (.unsupportedOperator operator)

namespace Formula

variable {α β ν : Type}

/-! ### Steps, order and value -/

/-- A **step** of an evaluation: it visits a leaf, tests the divisor of a quotient, performs an
operation on two sides, gives up at an operator without a meaning, or applies a function to its
arguments. -/
inductive Step (α : Type)
  | visit (leaf : α)
  | divisor (right : Formula α)
  | operation (operator : String) (left right : Formula α)
  | surrender (operator : String)
  | application (function : Function) (args : List (Formula α))

/-- The leaf that a step visits. -/
def Step.leaf? : Step α → Option α
  | .visit a => some a
  | _ => none

mutual

/-- The **steps of an evaluation** in their order. Sums, differences and products take their
left side first. A quotient takes its divisor first and tests it before it takes its dividend.
A call takes its arguments from left to right and is then applied. -/
def steps : Formula α → List (Step α)
  | .leaf a => [.visit a]
  | .binary operator l r =>
      if operator ∈ ["+", "-", "*"] then steps l ++ (steps r ++ [.operation operator l r])
      else if operator = "/" then
        steps r ++ .divisor r :: (steps l ++ [.operation operator l r])
      else [.surrender operator]
  | .call g args => stepsList args ++ [.application g args]

def stepsList : List (Formula α) → List (Step α)
  | [] => []
  | f :: r => steps f ++ stepsList r

end

mutual

/-- The leaves of a formula in the **order** of its evaluation: the left side before the right
one in sums, differences and products, the right side before the left one in quotients,
arguments from left to right, and nothing below an operator without a meaning. -/
def order : Formula α → List α
  | .leaf a => [a]
  | .binary operator l r =>
      if operator ∈ ["+", "-", "*"] then order l ++ order r
      else if operator = "/" then order r ++ order l
      else []
  | .call _ args => orderList args

def orderList : List (Formula α) → List α
  | [] => []
  | f :: r => order f ++ orderList r

end

section

variable (arith : Arithmetic ν) (read : α → Except Failure ν)

mutual

/-- The **value** of a formula, none when anything in it fails. -/
def value? : Formula α → Option ν
  | .leaf a => (read a).toOption
  | .binary operator l r =>
      (value? l).bind fun x => (value? r).bind fun y => (arith.operate operator x y).toOption
  | .call g args => (valueList? args).bind fun xs => (arith.apply g xs).toOption

def valueList? : List (Formula α) → Option (List ν)
  | [] => some []
  | f :: r => (value? f).bind fun x => (valueList? r).map (x :: ·)

end

/-- The **failure of a step** itself: what is below it has a value and the step has none. -/
def Step.failure? : Step α → Option Failure
  | .visit a => failureOf? (read a)
  | .divisor r =>
      (r.value? arith read).bind fun y =>
        if arith.isZero y then some (.fault .divisionByZero) else none
  | .operation operator l r =>
      (l.value? arith read).bind fun x =>
        (r.value? arith read).bind fun y => failureOf? (arith.operate operator x y)
  | .surrender operator => some (.fault (.unsupportedOperator operator))
  | .application g args =>
      (valueList? arith read args).bind fun xs => failureOf? (arith.apply g xs)

end

/-! ### Following steps -/

variable {arith : Arithmetic ν} {read : α → Except Failure ν}

variable (arith read) in
/-- A computation **follows** some steps to a value: it visits their leaves, up to the first
step that fails, and has the failure of that step or else the value. -/
inductive Follows : Trace α Failure β → List (Step α) → Option β → Prop
  | reaches {us : List (Step α)} {b : β} : (∀ u ∈ us, u.failure? arith read = none) →
      Follows ⟨us.filterMap Step.leaf?, .ok b⟩ us (some b)
  | fails {before after : List (Step α)} {s : Step α} {e : Failure} :
      (∀ u ∈ before, u.failure? arith read = none) → s.failure? arith read = some e →
      Follows ⟨(before ++ [s]).filterMap Step.leaf?, .error e⟩ (before ++ s :: after) none

/-- **Computations follow their steps one after the other.** -/
theorem Follows.bind {γ : Type} {t : Trace α Failure β} {k : β → Trace α Failure γ}
    {us vs : List (Step α)} {x : Option β} {y : β → Option γ} (ht : Follows arith read t us x)
    (hk : ∀ b, x = some b → Follows arith read (k b) vs (y b)) :
    Follows arith read (t >>= k) (us ++ vs) (x.bind y) := by
  cases ht with
  | fails hbefore hs =>
      rw [List.append_assoc, List.cons_append]
      exact .fails hbefore hs
  | @reaches _ b hus =>
      have hkb := hk b rfl
      rw [Trace.ok_bind, Option.bind_some]
      generalize k b = u, y b = z at hkb
      cases hkb with
      | reaches hvs =>
          rw [← List.filterMap_append]
          exact .reaches (List.forall_mem_append.mpr ⟨hus, hvs⟩)
      | @fails before after s e hbefore hs =>
          rw [← List.filterMap_append, ← List.append_assoc, ← List.append_assoc]
          exact .fails (List.forall_mem_append.mpr ⟨hus, hbefore⟩) hs

/-- An outcome follows one step when it fails as that step does. -/
theorem Follows.single {s : Step α} {x : Except Failure β}
    (hs : s.failure? arith read = failureOf? x) :
    Follows arith read ⟨s.leaf?.toList, x⟩ [s] x.toOption := by
  have hleaf : s.leaf?.toList = [s].filterMap Step.leaf? := by
    cases hs : s.leaf? <;> simp [hs]
  rw [hleaf]
  cases x with
  | ok b => exact .reaches (List.forall_mem_singleton.mpr hs)
  | error e =>
      have hnone : ∀ u ∈ ([] : List (Step α)), u.failure? arith read = none := by simp
      exact .fails hnone hs

/-- An outcome follows one step beyond the leaves when it fails as that step does. -/
theorem Follows.lift {s : Step α} {x : Except Failure β} (hleaf : s.leaf? = none)
    (hs : s.failure? arith read = failureOf? x) :
    Follows arith read (liftM x : Trace α Failure β) [s] x.toOption := by
  have hsingle := Follows.single hs
  rw [hleaf] at hsingle
  exact hsingle

/-- A result that is mapped follows the same steps. -/
theorem Follows.map {γ : Type} {t : Trace α Failure β} {us : List (Step α)} {x : Option β}
    (ht : Follows arith read t us x) (g : β → γ) :
    Follows arith read (t >>= fun b => pure (g b)) us (x.map g) := by
  have hpure : ∀ b, x = some b → Follows arith read (pure (g b)) [] (some (g b)) :=
    fun b _ => .reaches (List.forall_mem_nil _)
  have hbind := ht.bind hpure
  rw [List.append_nil] at hbind
  rwa [Option.map_eq_bind]

/-! ### Evaluations follow their steps -/

/-- An operation other than a quotient takes its left side, then its right side. -/
theorem run_side {operator : String} (h : operator ∈ ["+", "-", "*"]) (l r : Formula α) :
    (binary operator l r).run arith read = (do
      let x ← l.run arith read
      let y ← r.run arith read
      arith.operate operator x y) := by
  simp only [List.mem_cons, List.not_mem_nil, or_false] at h
  obtain rfl | rfl | rfl := h <;> rw [run] <;> rfl

/-- The test of a divisor, apart from the division. -/
def test (arith : Arithmetic ν) (y : ν) : Except Failure Unit :=
  if arith.isZero y then refuse .divisionByZero else pure ()

/-- A division by zero is refused. -/
theorem operate_zero {x y : ν} (hy : arith.isZero y = true) :
    arith.operate "/" x y = refuse .divisionByZero := by
  simp [Arithmetic.operate, hy]

/-- By what is not zero there is a division. -/
theorem operate_quotient {x y : ν} (hy : arith.isZero y = false) :
    arith.operate "/" x y = arith.div x y := by
  simp [Arithmetic.operate, hy]

/-- A quotient takes its divisor, tests it, and then takes its dividend. -/
theorem run_quotient (l r : Formula α) :
    (binary "/" l r).run arith read = (do
      let y ← r.run arith read
      test arith y
      let x ← l.run arith read
      arith.operate "/" x y) := by
  rw [run, if_neg (by decide), if_neg (by decide), if_neg (by decide), if_pos rfl]
  congr 1
  funext y
  cases hy : arith.isZero y with
  | true =>
      rw [test, hy]
      rfl
  | false =>
      simp only [test, hy, operate_quotient hy]
      rfl

/-- A quotient has the same value when its divisor is tested first. -/
theorem quotient_value (x y : Option ν) :
    (x.bind fun a => y.bind fun b => (arith.operate "/" a b).toOption) =
      y.bind fun b => (test arith b).toOption.bind fun _ =>
        x.bind fun a => (arith.operate "/" a b).toOption := by
  cases y with
  | none => simp
  | some b =>
      cases hb : arith.isZero b with
      | true =>
          simp only [Option.bind_some, operate_zero hb, test, hb, if_true]
          cases x <;> rfl
      | false =>
          simp only [Option.bind_some, test, hb, Bool.false_eq_true, if_false]
          rfl

/-- Other operators have no meaning. -/
theorem operate_surrender {operator : String} (h : operator ∉ ["+", "-", "*"])
    (hquotient : operator ≠ "/") (x y : ν) :
    arith.operate operator x y = refuse (.unsupportedOperator operator) := by
  simp only [List.mem_cons, List.not_mem_nil, or_false, not_or] at h
  rw [Arithmetic.operate, if_neg h.1, if_neg h.2.1, if_neg h.2.2, if_neg hquotient]

/-- An operation without a meaning takes neither of its sides. -/
theorem run_surrender {operator : String} (h : operator ∉ ["+", "-", "*"])
    (hquotient : operator ≠ "/") (l r : Formula α) :
    (binary operator l r).run arith read = refuse (.unsupportedOperator operator) := by
  simp only [List.mem_cons, List.not_mem_nil, or_false, not_or] at h
  rw [run, if_neg h.1, if_neg h.2.1, if_neg h.2.2, if_neg hquotient]

/-- Evaluations from left to right follow their steps when each of them does. -/
theorem runList_follows {fs : List (Formula α)}
    (h : ∀ f ∈ fs, Follows arith read (f.run arith read) f.steps (f.value? arith read)) :
    Follows arith read (runList arith read fs) (stepsList fs) (valueList? arith read fs) := by
  induction fs with
  | nil => exact .reaches (List.forall_mem_nil _)
  | cons f r ih =>
      have hr := ih fun g hg => h g (List.mem_cons_of_mem f hg)
      exact (h f List.mem_cons_self).bind fun x _ => hr.map (x :: ·)

/-- **An evaluation follows the steps of its formula.** -/
theorem run_follows (f : Formula α) :
    Follows arith read (f.run arith read) f.steps (f.value? arith read) := by
  induction f using Formula.induction with
  | leaf a =>
      have hvisit : (Step.visit a).failure? arith read = failureOf? (read a) := rfl
      exact Follows.single hvisit
  | binary operator l r ihl ihr =>
      rw [steps, value?]
      split_ifs with hside hquotient
      · rw [run_side hside]
        exact ihl.bind fun x hx => ihr.bind fun y hy =>
          .lift rfl (by simp only [Step.failure?, hx, hy, Option.bind_some])
      · subst hquotient
        have htest : ∀ y, r.value? arith read = some y → Follows arith read
            (liftM (test arith y)) [.divisor r] (test arith y).toOption := fun y hy =>
          .lift rfl (by simp only [Step.failure?, hy, Option.bind_some, test]; split <;> rfl)
        have hdivide : ∀ x y, l.value? arith read = some x → r.value? arith read = some y →
            Follows arith read (liftM (arith.operate "/" x y)) [.operation "/" l r]
              (arith.operate "/" x y).toOption := fun x y hx hy =>
          .lift rfl (by simp only [Step.failure?, hx, hy, Option.bind_some])
        rw [run_quotient, quotient_value]
        exact ihr.bind fun y hy => (htest y hy).bind fun _ _ => ihl.bind fun x hx =>
          hdivide x y hx hy
      · have hvalue : ((l.value? arith read).bind fun x => (r.value? arith read).bind fun y =>
            (arith.operate operator x y).toOption) = none := by
          simp only [operate_surrender hside hquotient]
          cases l.value? arith read <;> cases r.value? arith read <;> rfl
        have hsurrender : (Step.surrender operator : Step α).failure? arith read =
            failureOf? (refuse (.unsupportedOperator operator) : Except Failure ν) := rfl
        rw [run_surrender hside hquotient, hvalue]
        exact Follows.lift rfl hsurrender
  | call g args ih =>
      rw [run, steps, value?]
      exact (runList_follows ih).bind fun xs hxs =>
        .lift rfl (by simp only [Step.failure?, hxs, Option.bind_some])

/-! ### The order of the leaves -/

/-- The leaves among the steps of some formulas are those of each in order. -/
theorem filterMap_stepsList {fs : List (Formula α)}
    (h : ∀ f ∈ fs, f.steps.filterMap Step.leaf? = f.order) :
    (stepsList fs).filterMap Step.leaf? = orderList fs := by
  induction fs with
  | nil => rfl
  | cons f r ih =>
      rw [stepsList, orderList, List.filterMap_append, h f List.mem_cons_self,
        ih fun g hg => h g (List.mem_cons_of_mem f hg)]

/-- The leaves in their order are those that the steps visit. -/
theorem filterMap_steps (f : Formula α) : f.steps.filterMap Step.leaf? = f.order := by
  induction f using Formula.induction with
  | leaf a => rfl
  | binary operator l r ihl ihr =>
      rw [steps, order]
      split_ifs
      · simp [ihl, ihr, Step.leaf?]
      · rw [List.filterMap_append, List.filterMap_cons_none rfl, List.filterMap_append, ihl, ihr,
          List.filterMap_cons_none rfl, List.filterMap_nil, List.append_nil]
      · rfl
  | call g args ih =>
      rw [steps, order, List.filterMap_append, filterMap_stepsList ih,
        List.filterMap_cons_none rfl, List.filterMap_nil, List.append_nil]

/-- **No leaf comes twice** in the order of a formula. -/
theorem order_subperm_leaves (f : Formula α) : f.order.Subperm f.leaves := by
  induction f using Formula.induction with
  | leaf a => exact List.Subperm.refl [a]
  | binary operator l r ihl ihr =>
      rw [order, leaves]
      split_ifs
      · exact ihl.append ihr
      · exact (ihr.append ihl).trans List.perm_append_comm.subperm
      · exact List.nil_subperm
  | call g args ih =>
      rw [order, leaves]
      induction args with
      | nil => exact List.nil_subperm
      | cons f r ihr =>
          exact (ih f List.mem_cons_self).append (ihr fun g hg => ih g (List.mem_cons_of_mem f hg))

/-- **Every leaf comes in the order** of a formula whose operators have a meaning. -/
theorem order_perm_leaves {f : Formula α} (h : ∀ operator, .surrender operator ∉ f.steps) :
    f.order.Perm f.leaves := by
  induction f using Formula.induction with
  | leaf a => exact List.Perm.refl [a]
  | binary operator l r ihl ihr =>
      rw [steps] at h
      rw [order, leaves]
      split_ifs at h ⊢
      · refine (ihl fun o ho => h o ?_).append (ihr fun o ho => h o ?_)
        · simp [ho]
        · simp [ho]
      · refine ((ihr fun o ho => h o ?_).append (ihl fun o ho => h o ?_)).trans
          List.perm_append_comm
        · simp [ho]
        · simp [ho]
      · exact absurd (List.mem_singleton_self _) (h operator)
  | call g args ih =>
      rw [steps] at h
      rw [order, leaves]
      have hargs : ∀ operator, .surrender operator ∉ stepsList args := fun o ho =>
        h o (List.mem_append_left _ ho)
      clear h
      induction args with
      | nil => exact List.Perm.nil
      | cons f r ihr =>
          refine (ih f List.mem_cons_self fun o ho => hargs o ?_).append
            (ihr (fun g hg => ih g (List.mem_cons_of_mem f hg)) fun o ho => hargs o ?_)
          · exact List.mem_append_left _ ho
          · exact List.mem_append_right _ ho

/-! ### The first failure -/

/-- A computation that follows steps visits a beginning of their leaves. -/
theorem Follows.notes_prefix {t : Trace α Failure β} {us : List (Step α)} {x : Option β}
    (h : Follows arith read t us x) : t.notes <+: us.filterMap Step.leaf? := by
  cases h with
  | reaches => exact List.prefix_rfl
  | @fails before after s e =>
      have hsplit : before ++ s :: after = before ++ [s] ++ after := by simp
      rw [hsplit, List.filterMap_append (l := before ++ [s])]
      exact List.prefix_append _ _

/-- What follows steps with a value meets the leaves among them and answers with it. -/
theorem Follows.eq_of_value {t : Trace α Failure β} {us : List (Step α)} {b : β}
    (h : Follows arith read t us (some b)) : t = ⟨us.filterMap Step.leaf?, .ok b⟩ := by
  cases h
  rfl

/-- What follows steps answers with their value. -/
theorem Follows.outcome_eq_ok_iff {t : Trace α Failure β} {us : List (Step α)} {x : Option β}
    (h : Follows arith read t us x) {b : β} : t.outcome = .ok b ↔ x = some b := by
  constructor
  · intro ht
    cases h with
    | reaches => rw [Except.ok.inj ht]
    | fails => cases ht
  · rintro rfl
    rw [h.eq_of_value]

/-- Where there is a value, no step has failed. -/
theorem Follows.not_failed {t : Trace α Failure β} {us : List (Step α)} {b : β}
    (h : Follows arith read t us (some b)) : ∀ u ∈ us, u.failure? arith read = none := by
  cases h
  assumption

/-- The failure of a computation that follows steps is that of **the first step that fails**. -/
theorem Follows.outcome_eq_error_iff {t : Trace α Failure β} {us : List (Step α)} {x : Option β}
    (h : Follows arith read t us x) {e : Failure} : t.outcome = .error e ↔
      ∃ before s after, us = before ++ s :: after ∧ (∀ u ∈ before, u.failure? arith read = none) ∧
        s.failure? arith read = some e ∧ t.notes = (before ++ [s]).filterMap Step.leaf? := by
  constructor
  · intro ht
    cases h with
    | reaches => cases ht
    | fails hbefore hs =>
        cases ht
        exact ⟨_, _, _, rfl, hbefore, hs, rfl⟩
  · rintro ⟨before, s, after, hus, hbefore, hs, -⟩
    have hfirst : us.findSome? (Step.failure? arith read) = some e :=
      List.findSome?_eq_some_iff.mpr ⟨before, s, after, hus, hs, hbefore⟩
    cases h with
    | reaches hall =>
        rw [List.findSome?_eq_none_iff.mpr hall] at hfirst
        cases hfirst
    | fails hbefore' hs' =>
        rw [List.findSome?_eq_some_iff.mpr ⟨_, _, _, rfl, hs', hbefore'⟩] at hfirst
        rw [Option.some.inj hfirst]

end Formula

/-- A function on a number of arguments that it does not take fails for that number. -/
theorem Function.applyWith_of_not_takes {ν : Type} {below : ν → ν → Bool}
    {toFloat : ν → Except Failure Float} {ofFloat : Float → ν} {g : Function} {xs : List ν}
    (h : g.takes xs.length = false) :
    applyWith below toFloat ofFloat g xs = refuse (.wrongArity g xs.length) := by
  rw [Bool.eq_false_iff, Ne, takes_iff] at h
  unfold applyWith
  split
  · exact absurd (by simp [minArgs, maxArgs]) h
  · exact absurd (by simp [minArgs, maxArgs]) h
  · exact absurd (by simp [minArgs, maxArgs]) h
  · exact absurd (by simp [minArgs, maxArgs]) h
  · exact absurd (by simp [minArgs, maxArgs]) h
  · rfl

namespace Formula

variable {α ν : Type}

/-- There are as many values as formulas. -/
theorem length_of_valueList? {arith : Arithmetic ν} {read : α → Except Failure ν}
    {fs : List (Formula α)} {xs : List ν} (h : valueList? arith read fs = some xs) :
    xs.length = fs.length := by
  induction fs generalizing xs with
  | nil =>
      cases h
      rfl
  | cons f r ih =>
      simp only [valueList?, Option.bind_eq_some_iff, Option.map_eq_some_iff] at h
      obtain ⟨x, -, ys, hys, rfl⟩ := h
      rw [List.length_cons, List.length_cons, ih hys]

/-- A quotient fails as soon as its divisor is zero, before its dividend is touched. -/
theorem run_quotient_of_zero {arith : Arithmetic ν} {read : α → Except Failure ν}
    {l r : Formula α} {y : ν} (hr : r.value? arith read = some y) (hy : arith.isZero y = true) :
    (binary "/" l r).run arith read = ⟨r.order, .error (.fault .divisionByZero)⟩ := by
  have hfollows : Follows arith read (r.run arith read) r.steps (r.value? arith read) :=
    run_follows r
  rw [hr] at hfollows
  have htest : test arith y = .error (.fault .divisionByZero) := if_pos hy
  rw [run_quotient, hfollows.eq_of_value, filterMap_steps, Trace.ok_bind, htest]
  exact congrArg (Trace.mk · _) (List.append_nil _)

/-- A call is applied when all its arguments have been evaluated. -/
theorem run_call_of_values {arith : Arithmetic ν} {read : α → Except Failure ν} {g : Function}
    {args : List (Formula α)} {xs : List ν} (h : valueList? arith read args = some xs) :
    (call g args).run arith read = ⟨(call g args).order, arith.apply g xs⟩ := by
  have hfollows : Follows arith read (runList arith read args) (stepsList args)
      (valueList? arith read args) := runList_follows fun f _ => run_follows f
  rw [h] at hfollows
  rw [run, order, hfollows.eq_of_value, filterMap_stepsList fun f _ => filterMap_steps f,
    Trace.ok_bind]
  exact congrArg (Trace.mk · _) (List.append_nil _)

/-- **Which leaves are visited, and which failure is reported.** An evaluation visits a
beginning of the leaves in their order, in which none comes twice. When it has a value it has
visited each leaf once, and when it fails its failure is that of the first step that fails. So
a quotient fails at a divisor that is zero with no leaf of its dividend visited, and a call of
a function with as many arguments as that does not take fails with all their leaves visited. -/
theorem run_order (arith : Arithmetic ν) (read : α → Except Failure ν) (f : Formula α) :
    (f.run arith read).notes <+: f.order ∧ f.order.Subperm f.leaves ∧
    (∀ x, (f.run arith read).outcome = .ok x ↔ f.value? arith read = some x) ∧
    (∀ x, (f.run arith read).outcome = .ok x →
      (f.run arith read).notes = f.order ∧ f.order.Perm f.leaves) ∧
    (∀ e, (f.run arith read).outcome = .error e ↔
      ∃ before s after, f.steps = before ++ s :: after ∧
        (∀ u ∈ before, u.failure? arith read = none) ∧ s.failure? arith read = some e ∧
        (f.run arith read).notes = (before ++ [s]).filterMap Step.leaf?) ∧
    (∀ l r y, f = .binary "/" l r → r.value? arith read = some y → arith.isZero y = true →
      f.run arith read = ⟨r.order, refuse .divisionByZero⟩) ∧
    ∀ below toFloat ofFloat g args xs, arith.apply = Function.applyWith below toFloat ofFloat →
      f = .call g args → valueList? arith read args = some xs → g.takes args.length = false →
      f.run arith read = ⟨f.order, refuse (.wrongArity g args.length)⟩ := by
  have hfollows : Follows arith read (f.run arith read) f.steps (f.value? arith read) :=
    run_follows f
  refine ⟨?_, f.order_subperm_leaves, fun x => hfollows.outcome_eq_ok_iff, ?_,
    fun e => hfollows.outcome_eq_error_iff, ?_, ?_⟩
  · rw [← filterMap_steps]
    exact hfollows.notes_prefix
  · intro x hx
    rw [hfollows.outcome_eq_ok_iff.mp hx] at hfollows
    refine ⟨?_, order_perm_leaves fun operator hmem => ?_⟩
    · rw [hfollows.eq_of_value, filterMap_steps]
    · cases hfollows.not_failed _ hmem
  · rintro l r y rfl hr hy
    exact run_quotient_of_zero hr hy
  · rintro below toFloat ofFloat g args xs happly rfl hargs htakes
    rw [← length_of_valueList? hargs] at htakes ⊢
    rw [run_call_of_values hargs, happly, Function.applyWith_of_not_takes htakes]

/-- A quotient takes its divisor first, and the divisor its own left side. -/
example : (binary "/" (leaf 1) (binary "-" (leaf 2) (leaf 3))).order = [2, 3, 1] := rfl

end Formula

end SheetFormula
