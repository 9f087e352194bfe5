import SheetFormula.Proofs.Parsing
import SheetFormula.Proofs.Printing

/-!
# Evaluating Formulas That Were Parsed

The value of a formula comes from the values below each of its nodes. The parser makes only
formulas that are well formed: it takes its operators from the signs, and it counts the
arguments of each call. So the faults of an operator without a meaning and of a wrong number
of arguments cannot arise from a formula that was parsed, and what remains are the faults of
arithmetic itself.

## Main results

* `Formula.evaluate_binary`, `Formula.evaluate_quotient`, `Formula.evaluate_call`: the value
  of a formula, node by node.
* `Derives.wellFormed`: **what is parsed is well formed**.
* `Formula.WellFormed.safe`: a well formed formula has a value or an arithmetical fault.
* `Computation.parse_safe`: **parsed formulas are safe to evaluate**.
-/

namespace SheetFormula

/-- The outcomes of a list of computations are those of its members, up to the first
failure. -/
theorem Trace.outcome_mapM {ν ε α β : Type} (k : β → Trace ν ε α) (xs : List β) :
    (xs.mapM k).outcome = xs.mapM fun x => (k x).outcome := by
  induction xs with
  | nil => rfl
  | cons x r ih => simp only [List.mapM_cons, Trace.outcome_bind, ih, Trace.outcome_pure]; rfl

/-! ### Values node by node -/

namespace Formula

/-- The operation on doubles that an operator stands for. Division is not among them, as it
tests its divisor first. -/
def operation? (operator : String) : Option (Float → Float → Float) :=
  if operator = "+" then some (· + ·)
  else if operator = "-" then some (· - ·)
  else if operator = "*" then some (· * ·)
  else none

/-- An operator with a meaning is a division or stands for an operation. -/
theorem operation?_cases {operator : String} (h : operator ∈ ["+", "-", "*", "/"]) :
    operator = "/" ∨ ∃ op, operation? operator = some op := by
  simp only [List.mem_cons, List.not_mem_nil, or_false] at h
  obtain rfl | rfl | rfl | rfl := h
  · exact Or.inr ⟨_, rfl⟩
  · exact Or.inr ⟨_, rfl⟩
  · exact Or.inr ⟨_, rfl⟩
  · exact Or.inl rfl

/-- A leaf has its own value. -/
theorem evaluate_leaf (x : Float) : (leaf x).evaluate = .ok x := by
  rw [evaluate, run]
  rfl

/-- A sum, a difference or a product takes its left side first. -/
theorem evaluate_binary {operator : String} {op : Float → Float → Float}
    (h : operation? operator = some op) (l r : Formula Float) :
    (binary operator l r).evaluate = (do
      let x ← l.evaluate
      let y ← r.evaluate
      pure (op x y)) := by
  simp only [evaluate, run]
  rw [operation?] at h
  split_ifs at h with hadd hsub hmul
  · obtain rfl := Option.some.inj h
    simp only [if_pos hadd, Trace.outcome_bind]
    rfl
  · obtain rfl := Option.some.inj h
    simp only [if_neg hadd, if_pos hsub, Trace.outcome_bind]
    rfl
  · obtain rfl := Option.some.inj h
    simp only [if_neg hadd, if_neg hsub, if_pos hmul, Trace.outcome_bind]
    rfl

/-- A sum adds its sides. -/
theorem evaluate_sum (l r : Formula Float) :
    (binary "+" l r).evaluate = (do
      let x ← l.evaluate
      let y ← r.evaluate
      pure (x + y)) :=
  evaluate_binary rfl l r

/-- A difference subtracts its right side. -/
theorem evaluate_difference (l r : Formula Float) :
    (binary "-" l r).evaluate = (do
      let x ← l.evaluate
      let y ← r.evaluate
      pure (x - y)) :=
  evaluate_binary rfl l r

/-- A product multiplies its sides. -/
theorem evaluate_product (l r : Formula Float) :
    (binary "*" l r).evaluate = (do
      let x ← l.evaluate
      let y ← r.evaluate
      pure (x * y)) :=
  evaluate_binary rfl l r

/-- A quotient takes its divisor first, and its dividend unless the divisor is zero. -/
theorem evaluate_quotient (l r : Formula Float) :
    (binary "/" l r).evaluate = (do
      let y ← r.evaluate
      if y == 0 then .error (.fault .divisionByZero)
      else do
        let x ← l.evaluate
        pure (x / y)) := by
  simp only [evaluate, run]
  rw [if_neg (by decide), if_neg (by decide), if_neg (by decide), if_pos trivial,
    Trace.outcome_bind]
  congr 1
  funext y
  cases hy : y == 0 with
  | true => simp only [Arithmetic.floats, hy, if_true]; rfl
  | false =>
      simp only [Arithmetic.floats, hy, Bool.false_eq_true, if_false, Trace.outcome_bind]
      rfl

/-- A call takes its arguments from left to right. -/
theorem evaluate_call (g : Function) (args : List (Formula Float)) :
    (call g args).evaluate = (do
      let xs ← args.mapM evaluate
      Arithmetic.floats.apply g xs) := by
  rw [evaluate, run, runList_eq_mapM, Trace.outcome_bind, Trace.outcome_mapM]
  rfl

end Formula

/-! ### Parsed formulas are well formed -/

/-- A formula is **well formed for a symbol**: what is derived from arguments is a call whose
arguments are well formed, and their number is still to be checked. -/
def Symbol.WellFormed : Symbol → Formula Float → Prop
  | .arguments g, f => ∃ args, f = .call g args ∧ ∀ a ∈ args, a.WellFormed
  | _, f => f.WellFormed

/-- A sign between terms is an operator with a meaning. -/
theorem Token.Adds.mem_operators {t : Token} (h : t.Adds) : t.text ∈ ["+", "-", "*", "/"] := by
  obtain h | h := h <;> simp [h]

/-- A sign between factors is an operator with a meaning. -/
theorem Token.Multiplies.mem_operators {t : Token} (h : t.Multiplies) :
    t.text ∈ ["+", "-", "*", "/"] := by
  obtain h | h := h <;> simp [h]

/-- **What is parsed is well formed.** -/
theorem Derives.wellFormed {resolve : String → Except Failure Float} {s : Symbol}
    {ts : List Token} {f : Formula Float} (h : Derives resolve s ts f) : s.WellFormed f := by
  induction h with
  | ofTerm _ ih | oneSlot _ ih | filledSlot _ ih | oneFactor _ ih | group _ ih => exact ih
  | ofSum _ ht _ ihl ihr | moreSlots _ ht _ ihl ihr => exact .binary ht.mem_operators ihl ihr
  | moreFactors _ ht _ ihl ihr => exact .binary ht.mem_operators ihl ihr
  | emptySlot | number | reference => exact .leaf _
  | call _ _ _ htakes ih =>
      obtain ⟨args, hargs, hwell⟩ := ih
      obtain ⟨-, rfl⟩ := Formula.call.inj hargs
      exact .call htakes hwell
  | @oneArgument g ts f _ ih =>
      exact ⟨[f], rfl, fun a ha => List.mem_singleton.mp ha ▸ ih⟩
  | @moreArguments g ts us t args f _ _ _ ihl ihr =>
      obtain ⟨args', hargs, hwell⟩ := ihl
      obtain ⟨-, rfl⟩ := Formula.call.inj hargs
      refine ⟨args ++ [f], rfl, fun a ha => ?_⟩
      obtain ha | ha := List.mem_append.mp ha
      · exact hwell a ha
      · exact List.mem_singleton.mp ha ▸ ihr

/-! ### Safe outcomes -/

/-- The **arithmetical faults**: a division by zero, and the arguments for which a function
has no double as its value. -/
inductive Fault.Arithmetical : Fault → Prop
  | divisionByZero : Arithmetical .divisionByZero
  | outsideDomain {g : Function} (args : List Float) :
      g ∈ [Function.sin, .cos, .pow] → Arithmetical (.outsideDomain g args)
  | outsideRange (args : List Float) : Arithmetical (.outsideRange .pow args)

/-- An arithmetical fault is a division by zero or of the plain kind of faults in an
evaluation. -/
theorem Fault.Arithmetical.kind_eq {f : Fault} (h : f.Arithmetical) :
    f.kind = .division ∨ f.kind = .evaluation := by
  cases h with
  | divisionByZero => exact Or.inl rfl
  | outsideDomain | outsideRange => exact Or.inr rfl

/-- An outcome is **safe** when it is an answer or an arithmetical fault. -/
inductive Safe {α : Type} : Except Failure α → Prop
  | answer (a : α) : Safe (.ok a)
  | fault {f : Fault} : f.Arithmetical → Safe (.error (.fault f))

namespace Safe

variable {α β : Type}

/-- What is safe answers, or fails with a fault of arithmetic. -/
theorem cases {x : Except Failure α} (h : Safe x) :
    (∃ a, x = .ok a) ∨ ∃ fault : Fault, fault.Arithmetical ∧ x = .error (.fault fault) := by
  obtain a | hf := h
  · exact Or.inl ⟨a, rfl⟩
  · exact Or.inr ⟨_, hf, rfl⟩

/-- A sequence of safe computations is safe. -/
theorem bind {x : Except Failure α} {k : α → Except Failure β} (hx : Safe x)
    (hk : ∀ a, x = .ok a → Safe (k a)) : Safe (x >>= k) := by
  cases hx with
  | answer a => exact hk a rfl
  | fault hf => exact .fault hf

/-- Values one after another are safe when each of them is, and there are as many. -/
theorem mapM {k : α → Except Failure β} {xs : List α} (h : ∀ x ∈ xs, Safe (k x)) :
    Safe (xs.mapM k) ∧ ∀ ys, xs.mapM k = .ok ys → ys.length = xs.length := by
  induction xs with
  | nil => exact ⟨.answer [], fun ys hys => by cases hys; rfl⟩
  | cons x r ih =>
      obtain ⟨hsafe, hlength⟩ := ih (fun y hy => h y (List.mem_cons_of_mem x hy))
      have hhead : Safe (k x) := h x List.mem_cons_self
      rw [List.mapM_cons]
      constructor
      · exact hhead.bind fun y _ => hsafe.bind fun ys _ => .answer (y :: ys)
      · intro ys hys
        cases hx : k x with
        | error e => rw [hx] at hys; cases hys
        | ok y =>
            cases hr : r.mapM k with
            | error e => rw [hx, hr] at hys; cases hys
            | ok zs =>
                rw [hx, hr] at hys
                cases hys
                rw [List.length_cons, List.length_cons, hlength zs hr]

end Safe

/-- A function of one finite argument has a value or an argument outside its domain. -/
theorem Function.safe_circular {g : Function} (h : g ∈ [Function.sin, .cos, .pow])
    (value : Float → Float) (x : Float) : Safe (g.circular value x) := by
  unfold circular
  dsimp only
  split
  · exact .fault (.outsideDomain [x] h)
  · exact .answer _

/-- A power is safe. -/
theorem Function.safe_power (x y : Float) : Safe (power x y) := by
  unfold power
  dsimp only
  split
  · split
    · exact .fault (.outsideDomain [x, y] (by decide))
    · exact .fault (.outsideRange [x, y])
  · exact .answer _

/-- **A function is safe on as many arguments as it takes.** -/
theorem Function.safe_apply {g : Function} {xs : List Float}
    (h : g.takes xs.length = true) : Safe (Arithmetic.floats.apply g xs) := by
  cases g with
  | sin =>
      obtain ⟨x, rfl⟩ := eq_singleton_of_takes rfl h
      exact (safe_circular (by decide) Float.sin x).bind fun y _ => .answer y
  | cos =>
      obtain ⟨x, rfl⟩ := eq_singleton_of_takes rfl h
      exact (safe_circular (by decide) Float.cos x).bind fun y _ => .answer y
  | pow =>
      obtain ⟨x, y, rfl⟩ := eq_pair_of_takes h
      exact (safe_power x y).bind fun z _ => .answer z
  | max =>
      obtain ⟨x, r, rfl⟩ := eq_cons_of_takes h
      exact .answer _
  | min =>
      obtain ⟨x, r, rfl⟩ := eq_cons_of_takes h
      exact .answer _

namespace Formula

/-- The operators give a safe outcome on safe outcomes. -/
theorem safe_binary {operator : String} (h : operator ∈ ["+", "-", "*", "/"])
    {l r : Formula Float} (hl : Safe l.evaluate) (hr : Safe r.evaluate) :
    Safe (binary operator l r).evaluate := by
  obtain rfl | ⟨op, hop⟩ := operation?_cases h
  · rw [evaluate_quotient]
    refine hr.bind fun y _ => ?_
    split
    · exact .fault .divisionByZero
    · exact hl.bind fun x _ => .answer (x / y)
  · rw [evaluate_binary hop]
    exact hl.bind fun x _ => hr.bind fun y _ => .answer (op x y)

/-- **A well formed formula is safe to evaluate.** -/
theorem WellFormed.safe {f : Formula Float} (h : f.WellFormed) : Safe f.evaluate := by
  induction h with
  | leaf x => exact evaluate_leaf x ▸ .answer x
  | binary hoperator _ _ ihl ihr => exact safe_binary hoperator ihl ihr
  | @call g args htakes _ ih =>
      obtain ⟨hsafe, hlength⟩ := Safe.mapM ih
      rw [evaluate_call]
      refine hsafe.bind fun xs hxs => Function.safe_apply ?_
      rw [hlength xs hxs]
      exact htakes

end Formula

/-! ### Parsed formulas -/

namespace Computation

/-- **Parsed formulas are safe to evaluate.** When tokens are read as a formula, its operators
have a meaning and its calls have as many arguments as their functions take. So it has a
value, or its fault is a division by zero or a function that has no value there. -/
theorem parse_safe {grid : Option Grid} {ts : List Token} {f : Formula Float}
    (h : (parse grid ts).outcome = .ok f) :
    f.WellFormed ∧
      ((∃ x, f.evaluate = .ok x) ∨
        ∃ fault : Fault, f.evaluate = .error (.fault fault) ∧ fault.Arithmetical ∧
          (fault.kind = .division ∨ fault.kind = .evaluation)) := by
  have hwell : f.WellFormed := (outcome_parse_eq_ok_iff.mp h).wellFormed
  refine ⟨hwell, ?_⟩
  obtain ⟨x, hx⟩ | ⟨fault, hfault, hx⟩ := hwell.safe.cases
  · exact Or.inl ⟨x, hx⟩
  · exact Or.inr ⟨fault, hx, hfault, hfault.kind_eq⟩

/-- The tokens of `1/0` are derived as a quotient. -/
theorem derives_oneByZero : Derives (resolve none) .expression
    [⟨.number, "1"⟩, ⟨.operator, "/"⟩, ⟨.number, "0"⟩] (.binary "/" (.leaf 1) (.leaf 0)) := by
  have hone : Derives (resolve none) .term [⟨.number, "1"⟩] (.leaf 1) :=
    .oneFactor (.number rfl (by decide))
  have hquotient := hone.moreFactors (t := ⟨.operator, "/"⟩) (Or.inr rfl)
    (.number (t := ⟨.number, "0"⟩) (x := 0) rfl (by decide))
  exact hquotient.ofTerm

/-- The quotient of one by zero has no value. -/
theorem evaluate_oneByZero : (Formula.binary "/" (.leaf 1) (.leaf 0)).evaluate =
    .error (.fault .divisionByZero) := by
  rw [Formula.evaluate_quotient, Formula.evaluate_leaf]
  rfl

/-- The tokens of `1/0` are read as a formula, which divides by zero. -/
theorem parse_safe_oneByZero : ∃ (ts : List Token) (f : Formula Float),
    ts = [⟨.number, "1"⟩, ⟨.operator, "/"⟩, ⟨.number, "0"⟩] ∧
    (parse none ts).outcome = .ok f ∧ f.WellFormed ∧
      ∃ fault : Fault, f.evaluate = .error (.fault fault) ∧ fault.Arithmetical ∧
        fault.kind = .division := by
  have hparse := outcome_parse_eq_ok_iff.mpr derives_oneByZero
  have hzero := evaluate_oneByZero
  obtain ⟨hwell, ⟨x, hx⟩ | ⟨fault, hfault, harithmetical, -⟩⟩ := parse_safe hparse
  · cases hzero.symm.trans hx
  · obtain rfl := Failure.fault.inj (Except.error.inj (hzero.symm.trans hfault))
    exact ⟨_, _, rfl, hparse, hwell, _, hzero, harithmetical, rfl⟩

end Computation

end SheetFormula
