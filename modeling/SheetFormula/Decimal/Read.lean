import SheetFormula.Decimal.Binary
import SheetFormula.Decimal.Numeral

/-!
# Reading Decimal Numbers

The double that a text writes: a sign, then digits with an optional point and exponent, or
a name of infinity or of not-a-number. White space may surround the text, its digits may be
those of any script, and single underscores may stand between digits. The value is the
double nearest to the written number.
-/

namespace SheetFormula.Decimal

open SheetFormula.Text

/-- A list of characters without its underscores, each of which must stand between two
digits. The first argument is the character before. -/
def dropUnderscores? : Char → List Char → Option (List Char)
  | prev, [] => if prev = '_' then none else some []
  | prev, c :: r =>
      if c = '_' then
        if isDigit prev then dropUnderscores? c r else none
      else if prev = '_' ∧ ¬ isDigit c then none
      else (dropUnderscores? c r).map (c :: ·)

/-- The exponent at the end of a number, zero when there is none. -/
def readExponent? : List Char → Option Int
  | [] => some 0
  | c :: r =>
      if c.toLower ≠ 'e' then none
      else
        let (negative, ds) := splitSign r
        if ds.isEmpty || !ds.all isDigit then none
        else some (if negative then -(natOfDigits ds) else natOfDigits ds)

/-- The double nearest to `coefficient * 10 ^ exponent`. Exponents far beyond the range of
doubles are cut short first, which changes no result: the number of digits of the
coefficient bounds its size. -/
def nearestDecimal (negative : Bool) (coefficient : Nat) (exponent : Int) : Float :=
  let size : Int := (Nat.toDigits 10 coefficient).length
  if coefficient = 0 ∨ size + exponent < -400 then nearest negative ⟨0, 1⟩
  else if 400 < size + exponent then nearest negative ⟨Nat.pow 10 400, 1⟩
  else nearest negative ((⟨coefficient, 1⟩ : Ratio).scaleBy 10 exponent)

/-- The double that a list of characters without a sign writes. -/
def readUnsigned? (negative : Bool) (cs : List Char) : Option Float :=
  let name := cs.map Char.toLower
  if name = ['i', 'n', 'f'] ∨ name = "infinity".toList then
    some (if negative then -(1.0 / 0.0) else 1.0 / 0.0)
  else if name = ['n', 'a', 'n'] then some (0.0 / 0.0)
  else
    let whole := cs.takeWhile isDigit
    let rest := cs.dropWhile isDigit
    let (fraction, rest) := match rest with
      | '.' :: r => (r.takeWhile isDigit, r.dropWhile isDigit)
      | r => ([], r)
    if whole.isEmpty && fraction.isEmpty then none
    else (readExponent? rest).map fun e =>
      nearestDecimal negative (natOfDigits (whole ++ fraction)) (e - fraction.length)

/-- The **double that a text writes**, none when it writes no number. -/
def read? (s : String) : Option Float := do
  let cs ← dropUnderscores? ' ' (numberChars s)
  let (negative, unsigned) := splitSign cs
  readUnsigned? negative unsigned

end SheetFormula.Decimal
