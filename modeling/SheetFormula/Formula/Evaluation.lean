import SheetFormula.Formula.Basic
import SheetFormula.Function.Apply
import SheetFormula.Trace

/-!
# Evaluation

The value of a formula in an arithmetic. Sums, differences and products take their left
side first; a quotient takes its divisor first and fails if that is zero, before the
dividend is touched. A call takes its arguments from left to right. Nothing below an
operator without a meaning is touched. The notes of an evaluation are the leaves it
visited.
-/

namespace SheetFormula

namespace Formula

variable {α ν : Type}

mutual

/-- The **evaluation** of a formula, when `read` gives the values of the leaves. -/
def run (arith : Arithmetic ν) (read : α → Except Failure ν) :
    Formula α → Trace α Failure ν
  | .leaf a => do
      Trace.note a
      read a
  | .binary operator l r =>
      if operator = "+" then do
        let x ← run arith read l
        let y ← run arith read r
        arith.add x y
      else if operator = "-" then do
        let x ← run arith read l
        let y ← run arith read r
        arith.sub x y
      else if operator = "*" then do
        let x ← run arith read l
        let y ← run arith read r
        arith.mul x y
      else if operator = "/" then do
        let y ← run arith read r
        if arith.isZero y then refuse .divisionByZero
        let x ← run arith read l
        arith.div x y
      else refuse (.unsupportedOperator operator)
  | .call f args => do
      let values ← runList arith read args
      arith.apply f values

def runList (arith : Arithmetic ν) (read : α → Except Failure ν) :
    List (Formula α) → Trace α Failure (List ν)
  | [] => pure []
  | f :: r => do
      let x ← run arith read f
      let xs ← runList arith read r
      pure (x :: xs)

end

/-- The **value** of a formula in doubles. -/
def evaluate (f : Formula Float) : Except Failure Float :=
  (f.run Arithmetic.floats pure).outcome

end Formula

end SheetFormula
