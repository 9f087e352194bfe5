import SheetFormula.Fault.Basic
import SheetFormula.Number

/-!
# Values of Functions

What the functions give on their arguments. The numbers may be of any type for which the
operations of `Arithmetic` are known; there are two such arithmetics here, that of doubles
and that of numbers, in which whole numbers stay whole where they can.
-/

namespace SheetFormula

open Decimal

/-- An **arithmetic** on the type `ν`: the four operations, the test for zero that guards a
division, and the values of functions. -/
structure Arithmetic (ν : Type) where
  add : ν → ν → Except Failure ν
  sub : ν → ν → Except Failure ν
  mul : ν → ν → Except Failure ν
  div : ν → ν → Except Failure ν
  isZero : ν → Bool
  apply : Function → List ν → Except Failure ν

namespace Function

/-- The value of a function of one double that is defined for finite arguments. -/
def circular (f : Function) (value : Float → Float) (x : Float) : Except Failure Float :=
  let y := value x
  if y.isNaN && !x.isNaN then refuse (.outsideDomain f [x]) else pure y

/-- A power. Among finite numbers it has no value when the result would not be a number or
when zero is raised to a negative exponent, and none within range when it is too large. -/
def power (x y : Float) : Except Failure Float :=
  let z := x.pow y
  if Decimal.isFinite x && Decimal.isFinite y && !Decimal.isFinite z then
    if z.isNaN || x == 0 then refuse (.outsideDomain .pow [x, y])
    else refuse (.outsideRange .pow [x, y])
  else pure z

/-- The first of the elements that none of the later ones comes before. -/
def firstBy {ν : Type} (before : ν → ν → Bool) (first : ν) (rest : List ν) : ν :=
  rest.foldl (fun best x => if before x best then x else best) first

/-- The value of a function on numbers that are ordered by `below` and that turn into
doubles. The number of arguments is checked first. -/
def applyWith {ν : Type} (below : ν → ν → Bool) (toFloat : ν → Except Failure Float)
    (ofFloat : Float → ν) (f : Function) (args : List ν) : Except Failure ν :=
  match f, args with
  | .sin, [x] => do return ofFloat (← circular .sin Float.sin (← toFloat x))
  | .cos, [x] => do return ofFloat (← circular .cos Float.cos (← toFloat x))
  | .pow, [x, y] => do
      let base ← toFloat x
      let exponent ← toFloat y
      return ofFloat (← power base exponent)
  | .max, x :: r => pure (firstBy (fun a best => below best a) x r)
  | .min, x :: r => pure (firstBy below x r)
  | f, args => refuse (.wrongArity f args.length)

end Function

namespace Arithmetic

/-- The arithmetic of **doubles**. -/
def floats : Arithmetic Float where
  add x y := pure (x + y)
  sub x y := pure (x - y)
  mul x y := pure (x * y)
  div x y := pure (x / y)
  isZero x := x == 0
  apply := Function.applyWith (· < ·) pure id

/-- A number as a double. -/
def numberToFloat (n : Number) : Except Failure Float :=
  match n.toFloat? with
  | some x => pure x
  | none => throw .tooWide

/-- An operation on two numbers: that on integers when both are whole, else that on
doubles. -/
def mixed (onInts : Int → Int → Except Failure Number) (onFloats : Float → Float → Float) :
    Number → Number → Except Failure Number
  | .whole i, .whole j => onInts i j
  | m, n => do
      let x ← numberToFloat m
      let y ← numberToFloat n
      return .real (onFloats x y)

/-- The arithmetic of **numbers**. The quotient of whole numbers is a double. -/
def numbers : Arithmetic Number where
  add := mixed (fun i j => pure (.whole (i + j))) (· + ·)
  sub := mixed (fun i j => pure (.whole (i - j))) (· - ·)
  mul := mixed (fun i j => pure (.whole (i * j))) (· * ·)
  div := mixed
    (fun i j => match Number.quotient? i j with
      | some x => pure (.real x)
      | none => throw .tooWide)
    (· / ·)
  isZero := Number.isZero
  apply := Function.applyWith Number.below numberToFloat .real

end Arithmetic

end SheetFormula
