import SheetFormula.Datum

/-!
# Specifications of Fields

How a value is laid out in a field of a template: the character that fills the field and the
side on which it does so, the sign of numbers, the width, the separator of thousands, the
precision, and the presentation. All parts are optional and come in this order.
-/

namespace SheetFormula.Template

open Text

/-- What is wrong with a template or with the value that is put into it. -/
inductive Fault
  | singleOpen
  | singleClose
  | openInName
  | unclosedName
  | unclosedSpec
  | noConversion
  | afterConversion
  | unknownConversion (c : Char)
  | tooManyDigits
  | automaticAfterManual
  | manualAfterAutomatic
  | emptyAttribute
  | unclosedItem
  | afterItem
  | tooDeep
  | twoSeparators
  | separatorWith (separator presentation : Char)
  | missingPrecision
  | invalidSpec (spec typeName : String)
  | unknownPresentation (presentation : Char) (typeName : String)
  | precisionTooBig
  /-- A part of the specification that a value of this type cannot have. -/
  | notAllowed (part place : String)
  /-- There is no argument with this number. -/
  | noArgument (index : Nat)
  /-- There is no character with this number. -/
  | noCharacter
  /-- There is no item with this number. -/
  | noItem
  /-- There is no kind with this number. -/
  | noPart
  /-- There is no argument or field with this name. -/
  | noName (name : String)
  /-- The value has no attribute of this name. -/
  | noAttribute (name : String)
  /-- The value has no items, or no layout. -/
  | unsuited
  /-- An integer is beyond all doubles or characters. -/
  | tooWide
  /-- An integer has more digits than are written. -/
  | unwritable
  /-- The text has halves of characters in it. -/
  | torn

/-- A character in a message: as it is when it is visible ASCII, else by its number. The
characters visible are those below `bound`. -/
def Fault.visible (bound : Nat) (c : Char) : String :=
  if 32 < c.toNat ∧ c.toNat < bound then c.toString
  else "\\x" ++ String.ofList (Nat.toDigits 16 c.toNat)

/-- The message of a fault. -/
def Fault.message : Fault → String
  | .singleOpen => "Single '\x7b' encountered in format string"
  | .singleClose => "Single '\x7d' encountered in format string"
  | .openInName => "unexpected '\x7b' in field name"
  | .unclosedName => "expected '\x7d' before end of string"
  | .unclosedSpec => "unmatched '\x7b' in format spec"
  | .noConversion => "end of string while looking for conversion specifier"
  | .afterConversion => "expected ':' after conversion specifier"
  | .unknownConversion c => "Unknown conversion specifier " ++ visible 127 c
  | .tooManyDigits => "Too many decimal digits in format string"
  | .automaticAfterManual =>
      "cannot switch from manual field specification to automatic field numbering"
  | .manualAfterAutomatic =>
      "cannot switch from automatic field numbering to manual field specification"
  | .emptyAttribute => "Empty attribute in format string"
  | .unclosedItem => "Missing ']' in format string"
  | .afterItem => "Only '.' or '[' may follow ']' in format field specifier"
  | .tooDeep => "Max string recursion exceeded"
  | .twoSeparators => "Cannot specify both ',' and '_'."
  | .separatorWith separator presentation =>
      "Cannot specify '" ++ separator.toString ++ "' with '" ++ visible 128 presentation ++ "'."
  | .missingPrecision => "Format specifier missing precision"
  | .invalidSpec spec typeName =>
      "Invalid format specifier '" ++ spec ++ "' for object of type '" ++ typeName ++ "'"
  | .unknownPresentation presentation typeName =>
      "Unknown format code '" ++ visible 128 presentation ++ "' for object of type '" ++
        typeName ++ "'"
  | .precisionTooBig => "precision too big"
  | .notAllowed part place => part ++ " not allowed " ++ place
  | .noArgument index =>
      "Replacement index " ++ toString index ++ " out of range for positional args tuple"
  | .noCharacter => "string index out of range"
  | .noItem => "list index out of range"
  | .noPart => "tuple index out of range"
  | .noName name => name
  | .noAttribute name => name
  | .unsuited | .torn => ""
  | .tooWide => "int too large to convert to float"
  | .unwritable =>
      "Exceeds the limit (4300 digits) for integer string conversion; " ++
        "use sys.set_int_max_str_digits() to increase the limit"

/-- The side of a field on which a value stands. -/
inductive Align
  | left
  | right
  | center
  /-- On the right, with the filling between the sign and the digits. -/
  | afterSign
  deriving DecidableEq

/-- The sign that stands for an alignment. -/
def Align.ofChar? (c : Char) : Option Align :=
  if c = '<' then some .left
  else if c = '>' then some .right
  else if c = '^' then some .center
  else if c = '=' then some .afterSign
  else none

/-- A **specification** of a field. -/
structure Spec where
  fill : Char
  align : Align
  sign : Option Char
  /-- A negative zero loses its sign. -/
  noNegativeZero : Bool
  alternate : Bool
  width : Option Nat
  /-- The separator of groups of digits. -/
  separator : Option Char
  precision : Option Nat
  /-- The letter of the presentation, if one is given. -/
  presentation : Option Char

/-- The greatest number in a template. -/
def numberLimit : Nat := Nat.pow 2 63 - 1

/-- The decimal number at the beginning of a text, if digits of whatever script are there,
and what is left after it. -/
def number (cs : List Char) : Except Fault (Option Nat × List Char) :=
  let ds := cs.takeWhile fun c => (digitValue? c).isSome
  let n := ds.foldl (fun n c => n * 10 + (digitValue? c).getD 0) 0
  if ds.isEmpty then pure (none, cs)
  else if numberLimit < n then throw .tooManyDigits
  else pure (some n, cs.drop ds.length)

namespace Spec

/-- The filling character and the alignment at the beginning of a specification, each of
them if it is given, and what is left after them. -/
def alignment : List Char → Option Char × Option Align × List Char
  | c :: a :: r =>
      match Align.ofChar? a with
      | some align => (some c, some align, r)
      | none =>
          match Align.ofChar? c with
          | some align => (none, some align, a :: r)
          | none => (none, none, c :: a :: r)
  | [a] =>
      match Align.ofChar? a with
      | some align => (none, some align, [])
      | none => (none, none, [a])
  | [] => (none, none, [])

/-- Whether a text begins with one of some characters, and what is left after that. -/
def optional (among : List Char) : List Char → Option Char × List Char
  | c :: r => if among.contains c then (some c, r) else (none, c :: r)
  | [] => (none, [])

/-- The separator of groups of digits. There is at most one. -/
def separatorOf (cs : List Char) : Except Fault (Option Char × List Char) :=
  let (comma, r) := optional [','] cs
  let (score, r) := optional ['_'] r
  if comma.isSome && score.isSome then throw .twoSeparators
  else if score.isSome && r.head? == some ',' then throw .twoSeparators
  else pure (comma <|> score, r)

/-- The precision behind a point. -/
def precisionOf : List Char → Except Fault (Option Nat × List Char)
  | '.' :: r => do
      match ← number r with
      | (none, _) => throw .missingPrecision
      | (some n, r) => pure (some n, r)
  | cs => pure (none, cs)

/-- The presentations of numbers in which groups of three digits may be separated. Among them
is the character zero, which stands for the presentation that doubles have by themselves. -/
def groupedPresentations : List Char := ['d', 'e', 'f', 'g', 'E', 'G', '%', 'F', '\x00']

/-- The presentations of integers in which underscores separate groups of four digits. -/
def binaryPresentations : List Char := ['b', 'o', 'x', 'X']

/-- Refuses a separator with a presentation that has no groups of digits. -/
def checkSeparator (separator presentation : Option Char) : Except Fault Unit :=
  match separator, presentation with
  | some s, some p =>
      if groupedPresentations.contains p then pure ()
      else if binaryPresentations.contains p && s == '_' then pure ()
      else throw (.separatorWith s p)
  | _, _ => pure ()

/-- The **specification that a text writes** for a value of the type named `typeName`, with
the alignment `side` when none is given. A leading zero of the width fills with zeros, after
the sign when the value would stand on the right. A presentation that is not given is
`usual`. -/
def parse (typeName : String) (side : Align) (usual : Option Char) (text : String) :
    Except Fault Spec := do
  let (fill, align, r) := alignment text.toList
  let (sign, r) := optional [' ', '+', '-'] r
  let (zeroSign, r) := optional ['z'] r
  let (alternate, r) := optional ['#'] r
  let (zero, r) := if fill.isNone then optional ['0'] r else (none, r)
  let (width, r) ← number r
  let (separator, r) ← separatorOf r
  let (precision, r) ← precisionOf r
  let presentation ← match r with
    | [] => pure usual
    | [c] => pure (some c)
    | _ => throw (.invalidSpec text typeName)
  checkSeparator separator presentation
  return {
    fill := fill.getD (if zero.isSome then '0' else ' ')
    align := align.getD (if zero.isSome ∧ side = .right then .afterSign else side)
    sign := sign
    noNegativeZero := zeroSign.isSome
    alternate := alternate.isSome
    width := width
    separator := separator
    precision := precision
    presentation := presentation }

end Spec

end SheetFormula.Template
