import SheetFormula.Decimal.Digits

/-!
# Layouts of Decimal Numbers

How a double is laid out as text: which digits it shows, where the point stands, and when
an exponent is used. A layout is a value of `Layout`; the plain layout of this library is
`Layout.plain`, which writes the fewest digits that read back and keeps a digit after the
point of a whole number.
-/

namespace SheetFormula.Decimal

/-- Which digits a layout shows and when it uses an exponent. -/
inductive Layout.Form
  /-- The fewest digits that read back; an exponent below `1e-04` and from `1e+16` on. -/
  | shortest
  /-- A number of significant digits, without the zeros at their end; an exponent below
  `1e-04` and when the digits before the point are more than the significant ones. -/
  | general (digits : Nat)
  /-- A number of digits after the point, never an exponent. -/
  | fixed (places : Nat)
  /-- One digit before the point and a number of digits after it, always an exponent. -/
  | scientific (places : Nat)
  deriving DecidableEq

/-- A **layout**: the form, whether a whole number without an exponent keeps a zero after
its point, and whether the point, and in the general form each zero, is kept in any case. -/
structure Layout where
  form : Layout.Form
  wholeZero : Bool := false
  keepPoint : Bool := false
  deriving DecidableEq

namespace Layout

/-- The plain text of a double. -/
def plain : Layout := { form := .shortest, wholeZero := true }

/-- At most `digits` significant digits. -/
def general (digits : Nat) : Layout := { form := .general digits }

/-- The digits that the form shows of a finite number. -/
def Form.digits (form : Form) (significand : Nat) (exponent : Int) : Digits :=
  let r := Ratio.ofBinary significand exponent
  match form with
  | .shortest => Digits.shortest significand exponent
  | .general n => Digits.toSignificant (max n 1) r
  | .fixed places => Digits.toPlaces places r
  | .scientific places => Digits.toSignificant (places + 1) r

/-- Whether a number with the digits `d` is written with an exponent. -/
def usesExponent (l : Layout) (d : Digits) : Bool :=
  match l.form with
  | .shortest => d.point ≤ -4 || 16 < d.point
  | .general n => d.point ≤ -4 || (max n 1 : Int) - (if l.wholeZero then 1 else 0) < d.point
  | .fixed _ => false
  | .scientific _ => true

/-- The text of an exponent: its sign and at least two digits. -/
def exponentText (e : Int) : List Char :=
  let ds := Nat.toDigits 10 e.natAbs
  'e' :: (if e < 0 then '-' else '+') :: (if ds.length < 2 then '0' :: ds else ds)

/-- The place of the sequence of digits before which the number ends, when the point
stands at the place `point`. -/
def lastPlace (l : Layout) (d : Digits) (exponential : Bool) (point : Int) : Int :=
  let shown : Int := match l.form with
    | .shortest => d.digits.length
    | .general n => if l.keepPoint then (max n 1 : Int) else d.digits.length
    | .fixed places => point + places
    | .scientific places => places + 1
  if l.wholeZero && !exponential then max shown (point + 1) else max shown point

/-- The text of the size of a finite number. -/
def sizeText (l : Layout) (significand : Nat) (exponent : Int) : List Char :=
  let d := l.form.digits significand exponent
  let exponential := l.usesExponent d
  let point : Int := if exponential then 1 else d.point
  let last := l.lastPlace d exponential point
  let first : Int := if point ≤ 0 then point - 1 else 0
  let whole := d.window first (point - first).toNat
  let fraction := d.window point (last - point).toNat
  whole ++ (if fraction.isEmpty && !l.keepPoint then [] else '.' :: fraction) ++
    (if exponential then exponentText (d.point - 1) else [])

/-- The text of a double, with a minus sign before a negative one. -/
def text (l : Layout) (x : Float) : String :=
  match Binary.ofFloat x with
  | .nan => "nan"
  | .infinite negative => if negative then "-inf" else "inf"
  | .finite negative significand exponent =>
      String.ofList ((if negative then ['-'] else []) ++ l.sizeText significand exponent)

end Layout

/-- The **plain text** of a double. -/
def plainText (x : Float) : String := Layout.plain.text x

end SheetFormula.Decimal
