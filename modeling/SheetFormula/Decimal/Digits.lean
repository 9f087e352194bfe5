import SheetFormula.Decimal.Binary

/-!
# Decimal Digits of Doubles

Two ways to write the size of a double with decimal digits: with the fewest digits that
read back as the same double (`Digits.shortest`), and rounded to a number of significant
digits or of decimal places (`Digits.toSignificant`, `Digits.toPlaces`). All arithmetic is
exact.
-/

namespace SheetFormula.Decimal

/-- A number in decimal **digits**: the digits `d₁ d₂ …` with the point before the first
one, times ten to the power `point`. The sequence of digits goes on with zeros on both
sides, and its list has none at its end. -/
structure Digits where
  digits : List Char
  point : Int

namespace Digits

/-- The number `coefficient * 10 ^ exponent` in digits. Zero is the digit zero before the
point. -/
def ofCoefficient (coefficient : Nat) (exponent : Int) : Digits :=
  if coefficient = 0 then ⟨['0'], 1⟩
  else
    let ds := Nat.toDigits 10 coefficient
    ⟨(ds.reverse.dropWhile (· == '0')).reverse, exponent + ds.length⟩

/-- The numbers that read as a double: those between the midpoints to its two neighbours,
the midpoints included when ties go to it. Below a power of two the neighbours are
twice as near, unless it is the smallest normal double. -/
structure Interval where
  low : Ratio
  high : Ratio
  closed : Bool

/-- The numbers that read as the double `significand * 2 ^ exponent`. -/
def Interval.around (significand : Nat) (exponent : Int) : Interval :=
  let nearBelow := significand = Nat.pow 2 52 ∧ -1074 < exponent
  { low := Ratio.ofBinary (4 * significand - if nearBelow then 1 else 2) (exponent - 2)
    high := Ratio.ofBinary (4 * significand + 2) (exponent - 2)
    closed := significand % 2 = 0 }

/-- Whether the ratio reads as the double. -/
def Interval.contains (i : Interval) (r : Ratio) : Bool :=
  if i.closed then i.low.atMost r && r.atMost i.high else i.low.below r && r.below i.high

/-- Of the two neighbours of `r` on the grid of the multiples of `10 ^ exponent`, the one
that reads as the double, the nearer one if both do, and of two equally near ones the one
with an even last digit. -/
def onGrid (i : Interval) (r : Ratio) (exponent : Int) : Option Nat :=
  let scaled := r.scaleBy 10 (-exponent)
  let below := scaled.floor
  let reads (c : Nat) : Bool := i.contains ((⟨c, 1⟩ : Ratio).scaleBy 10 exponent)
  match reads below, reads (below + 1) with
  | true, true => some scaled.round
  | true, false => some below
  | false, true => some (below + 1)
  | false, false => none

/-- The first of the grids of `count`, `count + 1`, … digits with a neighbour of `r` that
reads as the double; the first argument bounds the number of grids. -/
def firstGrid (i : Interval) (r : Ratio) (magnitude : Int) : Nat → Int → Digits
  | 0, count => ofCoefficient (r.scaleBy 10 (count - magnitude)).round (magnitude - count)
  | fuel + 1, count =>
      match onGrid i r (magnitude - count) with
      | some c => ofCoefficient c (magnitude - count)
      | none => firstGrid i r magnitude fuel (count + 1)

/-- The **fewest digits** that read back as the double `significand * 2 ^ exponent`.
Seventeen always do. -/
def shortest (significand : Nat) (exponent : Int) : Digits :=
  if significand = 0 then ofCoefficient 0 0
  else
    let r := Ratio.ofBinary significand exponent
    firstGrid (Interval.around significand exponent) r r.magnitude 17 1

/-- The number rounded to `count` significant digits. -/
def toSignificant (count : Nat) (r : Ratio) : Digits :=
  if r.num = 0 then ofCoefficient 0 0
  else
    let p := r.magnitude
    ofCoefficient (r.scaleBy 10 (count - p)).round (p - count)

/-- The number rounded to `places` digits after the point. -/
def toPlaces (places : Nat) (r : Ratio) : Digits :=
  ofCoefficient (r.scaleBy 10 places).round (-places)

/-- The digit at a place of the endless sequence of digits, zero beside the listed ones. -/
def digitAt (d : Digits) (i : Int) : Char :=
  if 0 ≤ i then d.digits.getD i.toNat '0' else '0'

/-- The digits at `count` places from `first` on. -/
def window (d : Digits) (first : Int) (count : Nat) : List Char :=
  (List.range count).map fun (k : Nat) => d.digitAt (first + k)

end Digits

end SheetFormula.Decimal
