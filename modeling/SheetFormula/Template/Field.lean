import SheetFormula.Template.Spec

/-!
# Fields

Laying out a value in a field by a specification. A number is written in parts: the sign, a
mark of the base, the digits before the point in groups, the point, and what follows it. The
field is filled up on the side or between sign and digits.
-/

namespace SheetFormula.Template

open Decimal

/-- The **parts of a number** before it is laid out. -/
structure Parts where
  negative : Bool
  mark : List Char := []
  digits : List Char
  point : Bool := false
  rest : List Char := []

namespace Parts

/-- The parts of the text of a number that may begin with a minus sign. -/
def ofText (cs : List Char) : Parts :=
  let (negative, cs) := match cs with
    | '-' :: r => (true, r)
    | r => (false, r)
  let digits := cs.takeWhile Text.isDigit
  match cs.dropWhile Text.isDigit with
  | '.' :: r => { negative, digits, point := true, rest := r }
  | r => { negative, digits, rest := r }

end Parts

/-- Digits, the last one first, in groups of `size` with separators, filled up with zeros to
at least `width` characters. The last group may be shorter, and there is no separator at the
end. -/
def groupReversed (size : Nat) (separator : Char) : Nat → Nat → List Char → List Char
  | 0, _, ds => ds
  | fuel + 1, width, ds =>
      let count := min size (max (max ds.length width) 1)
      let group := ds.take count ++ List.replicate (count - ds.length) '0'
      let left := ds.drop count
      let wanted := width - count
      if left.isEmpty && wanted == 0 then group
      else group ++ separator :: groupReversed size separator fuel (wanted - 1) left

/-- Digits in groups of `size`, if there is a separator, filled up with zeros to at least
`width` characters. -/
def grouped (size : Nat) (separator : Option Char) (width : Nat) (ds : List Char) : List Char :=
  if ds.isEmpty then []
  else match separator with
    | none => List.replicate (max width 1 - ds.length) '0' ++ ds
    | some s => (groupReversed size s (ds.length + width + 1) width ds.reverse).reverse

/-- The sign of a number in a field. -/
def signText (sign : Option Char) (negative : Bool) : List Char :=
  if negative then ['-']
  else match sign with
    | some '+' => ['+']
    | some ' ' => [' ']
    | _ => []

/-- Texts on the two sides of some filling. -/
def filled (spec : Spec) (sign body : List Char) : List Char :=
  let missing := spec.width.getD 0 - (sign.length + body.length)
  let fill (n : Nat) : List Char := List.replicate n spec.fill
  match spec.align with
  | .left => sign ++ body ++ fill missing
  | .right => fill missing ++ sign ++ body
  | .center => fill (missing / 2) ++ sign ++ body ++ fill (missing - missing / 2)
  | .afterSign => sign ++ fill missing ++ body

/-- The text of a number in a field. Digits are separated in groups of `size`. -/
def layNumber (spec : Spec) (size : Nat) (p : Parts) : List Char :=
  let sign := signText spec.sign p.negative ++ p.mark
  let tail := (if p.point then ['.'] else []) ++ p.rest
  let width :=
    if spec.fill = '0' ∧ spec.align = .afterSign then
      spec.width.getD 0 - (sign.length + tail.length)
    else 0
  filled spec sign (grouped size spec.separator width p.digits ++ tail)

/-- A text in capital letters, when a presentation is one. -/
def capitalized (presentation : Option Char) (cs : List Char) : List Char :=
  if presentation.any Char.isUpper then cs.map Char.toUpper else cs

/-- The greatest precision. -/
def precisionLimit : Nat := Nat.pow 2 31 - 1

/-- The presentation of doubles that is asked for, if there is one. The character zero asks
for none. -/
def Spec.realPresentation (spec : Spec) : Option Char := spec.presentation.filter (· ≠ '\x00')

/-- The layout of a double in a presentation, if it has one. Without a presentation and
without a precision it is the plain one. -/
def layoutOf? (spec : Spec) : Option Layout :=
  let n := spec.precision.getD 6
  let keepPoint := spec.alternate
  match spec.realPresentation.map Char.toLower with
  | none => some (match spec.precision with
      | none => { form := .shortest, wholeZero := true, keepPoint }
      | some n => { form := .general n, wholeZero := true, keepPoint })
  | some 'e' => some { form := .scientific n, keepPoint }
  | some 'f' | some '%' => some { form := .fixed n, keepPoint }
  | some 'g' => some { form := .general n, keepPoint }
  | some 'n' =>
      if spec.presentation = some 'n' then some { form := .general n, keepPoint } else none
  | _ => none

/-- The text of a double without the sign that a zero has, if it is to lose it. -/
def dropZeroSign (spec : Spec) (cs : List Char) : List Char :=
  match cs with
  | '-' :: r =>
      let size := r.takeWhile fun c => c != 'e'
      if spec.noNegativeZero && size.all fun c => c == '0' || c == '.' then r else cs
  | _ => cs

/-- A **double in a field**. A specification without a text is that of the plain text. -/
def floatField (typeName : String) (spec : Spec) (x : Float) : Except Fault String :=
  match layoutOf? spec with
  | none => throw (.unknownPresentation (spec.presentation.getD ' ') typeName)
  | some layout =>
      if spec.precision.any (precisionLimit < ·) then throw .precisionTooBig
      else
        let percent := spec.presentation = some '%'
        let text := dropZeroSign spec (layout.text (if percent then x * 100 else x)).toList
        let cs := capitalized spec.presentation text ++ (if percent then ['%'] else [])
        let simple := spec.sign ≠ some '+' ∧ spec.sign ≠ some ' ' ∧ spec.width = none ∧
          spec.separator = none
        pure (String.ofList (if simple then cs else layNumber spec 3 (Parts.ofText cs)))

/-- The base of a presentation of integers. -/
def baseOf (presentation : Char) : Nat :=
  match presentation with
  | 'b' => 2
  | 'o' => 8
  | 'x' | 'X' => 16
  | _ => 10

/-- The mark of a base before digits. -/
def baseMark (presentation : Char) : List Char :=
  match presentation with
  | 'b' => ['0', 'b']
  | 'o' => ['0', 'o']
  | 'x' => ['0', 'x']
  | 'X' => ['0', 'X']
  | _ => []

/-- An integer as a character in a field. -/
def characterField (spec : Spec) (i : Int) : Except Fault String := do
  if spec.sign.isSome then
    throw (.notAllowed "Sign" "with integer format specifier 'c'")
  if spec.alternate then
    throw (.notAllowed "Alternate form (#)" "with integer format specifier 'c'")
  if i < 0 ∨ 0x10ffff < i then throw .tooWide
  return String.ofList (layNumber spec 3
    { negative := false, digits := [], rest := [Char.ofNat i.toNat] })

/-- An **integer in a field**. -/
def intField (typeName : String) (spec : Spec) (i : Int) : Except Fault String := do
  let p := spec.presentation.getD 'd'
  if ['b', 'c', 'd', 'o', 'x', 'X', 'n'].contains p then
    if spec.precision.isSome then
      throw (.notAllowed "Precision" "in integer format specifier")
    if spec.noNegativeZero then
      throw (.notAllowed "Negative zero coercion (z)" "in integer format specifier")
    if p = 'c' then characterField spec i
    else
      let base := baseOf p
      if base = 10 ∧ ¬ writable i then throw .unwritable
      let digits := Nat.toDigits base i.natAbs
      let parts : Parts := {
        negative := i < 0
        mark := if spec.alternate then baseMark p else []
        digits := if p = 'X' then digits.map Char.toUpper else digits }
      return String.ofList (layNumber spec (if base = 10 then 3 else 4) parts)
  else if ['e', 'E', 'f', 'F', 'g', 'G', '%'].contains p then
    match Number.floatOfInt? i with
    | some x => floatField typeName spec x
    | none => throw .tooWide
  else throw (.unknownPresentation p typeName)

/-- A **text in a field**. -/
def textField (spec : Spec) (s : String) : Except Fault String := do
  if spec.presentation ≠ some 's' then
    throw (.unknownPresentation (spec.presentation.getD ' ') "str")
  let place := "in string format specifier"
  if spec.sign = some ' ' then throw (.notAllowed "Space" place)
  if spec.sign.isSome then throw (.notAllowed "Sign" place)
  if spec.noNegativeZero then throw (.notAllowed "Negative zero coercion (z)" place)
  if spec.alternate then throw (.notAllowed "Alternate form (#)" place)
  if spec.align = .afterSign then throw (.notAllowed "'=' alignment" place)
  let cs := match spec.precision with
    | some n => s.toList.take n
    | none => s.toList
  return String.ofList (filled spec [] cs)

/-- A **value in a field** with the specification that a text writes. An empty one stands for
the text of the value. -/
def layValue (spec : String) (value : Datum) : Except Fault String := do
  let some text := value.text? | throw .unwritable
  if spec.isEmpty then return text
  match value with
  | .real x => floatField "float" (← Spec.parse "float" .right none spec) x
  | .whole i => intField "int" (← Spec.parse "int" .right (some 'd') spec) i
  | .bool b => intField "bool" (← Spec.parse "bool" .right (some 'd') spec) (if b then 1 else 0)
  | .text _ => textField (← Spec.parse "str" .left (some 's') spec) text
  | _ => throw .unsuited

end SheetFormula.Template
