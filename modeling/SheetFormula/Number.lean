import SheetFormula.Decimal.Layout
import SheetFormula.Decimal.Numeral

/-!
# Numbers

A number is whole, of any size, or real, a double. The two kinds are compared by their
exact values, and a whole number turns into the nearest double unless it lies beyond the
largest one.
-/

namespace SheetFormula

open SheetFormula.Decimal

/-- A **number**: an integer of any size or a double. -/
inductive Number
  | whole (i : Int)
  | real (x : Float)

namespace Number

/-- The double nearest to an integer, none when the integer lies beyond all doubles. -/
def floatOfInt? (i : Int) : Option Float :=
  let x := ofInt i
  if Decimal.isFinite x then some x else none

/-- The double that a number is or is nearest to. -/
def toFloat? : Number → Option Float
  | .whole i => floatOfInt? i
  | .real x => some x

/-- The quotient of two integers as the double nearest to it, none when it lies beyond all
doubles. The divisor is not zero. A zero divided by a negative number is the negative zero. -/
def quotient? (a b : Int) : Option Float :=
  let x := nearest ((a < 0) != (b < 0)) ⟨a.natAbs, b.natAbs⟩
  if Decimal.isFinite x then some x else none

/-- Whether the integer lies below the finite double `± significand * 2 ^ exponent`, and
whether it lies above it. -/
def compareFinite (i : Int) (negative : Bool) (significand : Nat) (exponent : Int) : Ordering :=
  let r := Ratio.ofBinary significand exponent
  let x : Int := if negative then -r.num else r.num
  compare (i * r.den) x

/-- How an integer compares with a double, none when the double is not a number. -/
def compareIntFloat? (i : Int) (x : Float) : Option Ordering :=
  match Binary.ofFloat x with
  | .nan => none
  | .infinite negative => some (if negative then .gt else .lt)
  | .finite negative significand exponent => some (compareFinite i negative significand exponent)

/-- Whether the first number is **below** the second one. Nothing is below or above what is
not a number. -/
def below : Number → Number → Bool
  | .whole a, .whole b => a < b
  | .real a, .real b => a < b
  | .whole a, .real b => compareIntFloat? a b == some .lt
  | .real a, .whole b => compareIntFloat? b a == some .gt

/-- Whether two numbers have the **same value**. What is not a number has none. -/
def same : Number → Number → Bool
  | .whole a, .whole b => a == b
  | .real a, .real b => a == b
  | .whole a, .real b => compareIntFloat? a b == some .eq
  | .real a, .whole b => compareIntFloat? b a == some .eq

/-- Whether the number is zero. -/
def isZero (n : Number) : Bool := n.same (.whole 0)

/-- The text of a number, none for an integer beyond the digit limit. -/
def text? : Number → Option String
  | .whole i => if writable i then some (intText i) else none
  | .real x => some (plainText x)

end Number

end SheetFormula
