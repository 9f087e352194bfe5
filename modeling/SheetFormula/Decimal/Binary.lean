import SheetFormula.Decimal.Ratio

/-!
# Doubles as Exact Numbers

A double is not a number, an infinity, or a signed natural number times a power of two.
`Binary.ofFloat` takes it apart and `nearest` goes back: it finds the double nearest to a
ratio, of two equally near ones the one with the even significand.
-/

namespace SheetFormula.Decimal

/-- The exact meaning of a **double**. -/
inductive Binary
  | nan
  | infinite (negative : Bool)
  /-- The number `± significand * 2 ^ exponent`. -/
  | finite (negative : Bool) (significand : Nat) (exponent : Int)

/-- The meaning of a double, from its sign, its eleven bits of exponent and its fifty-two
bits of fraction. -/
def Binary.ofFloat (x : Float) : Binary :=
  let bits := x.toBits.toNat
  let negative := bits / Nat.pow 2 63 == 1
  let biased : Nat := bits / Nat.pow 2 52 % Nat.pow 2 11
  let fraction : Nat := bits % Nat.pow 2 52
  if biased = 2047 then
    if fraction = 0 then .infinite negative else .nan
  else if biased = 0 then .finite negative fraction (-1074)
  else .finite negative (Nat.pow 2 52 + fraction) ((biased : Int) - 1075)

/-- The size of `significand * 2 ^ exponent`. -/
def Ratio.ofBinary (significand : Nat) (exponent : Int) : Ratio :=
  (⟨significand, 1⟩ : Ratio).scaleBy 2 exponent

/-- The double with the given sign and the size nearest to the ratio. A size that rounds
beyond the largest double is an infinity. The carry of a rounding that fills the
significand runs over into the exponent, as the two lie next to each other in the bits. -/
def nearest (negative : Bool) (r : Ratio) : Float :=
  let sign : Nat := if negative then Nat.pow 2 63 else 0
  if r.num = 0 then Float.ofBits (UInt64.ofNat sign)
  else
    let guess : Int := (r.num.log2 : Int) - r.den.log2 - 52
    let fits := Nat.pow 2 52 ≤ (r.scaleBy 2 (-guess)).floor
    let exponent := max (if fits then guess else guess - 1) (-1074)
    let significand := (r.scaleBy 2 (-exponent)).round
    let size := significand + (exponent + 1074).toNat * Nat.pow 2 52
    Float.ofBits (UInt64.ofNat (sign + min size (2047 * Nat.pow 2 52)))

/-- The double nearest to an integer. -/
def ofInt (i : Int) : Float := nearest (i < 0) ⟨i.natAbs, 1⟩

/-- Whether the double is an infinity or not a number. -/
def isFinite (x : Float) : Bool :=
  match Binary.ofFloat x with
  | .finite .. => true
  | _ => false

end SheetFormula.Decimal
