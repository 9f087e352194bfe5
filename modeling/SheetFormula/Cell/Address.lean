import SheetFormula.Fault.Basic
import SheetFormula.Text.Uppercase

/-!
# Cell Addresses

A cell is addressed by a column letter and a row number counted from one, as in `B3`. Rows
are kept counted from zero. Columns are kept with `A` as the column one, since the column
zero holds the labels of the rows and has no letter.
-/

namespace SheetFormula

open Text Decimal

/-- The **address** of a cell. -/
structure Address where
  row : Int
  column : Int
  deriving DecidableEq, Repr

namespace Address

/-- The letter and the digits of a reference, if it has this form. -/
def parts? (ref : String) : Option (Char × List Char) :=
  match ref.toList with
  | letter :: ds =>
      if Lexeme.isCapital letter && !ds.isEmpty && ds.all isDigit then some (letter, ds) else none
  | [] => none

/-- The number of a column letter. -/
def columnOf (letter : Char) : Int := (letter.toNat : Int) - ('A'.toNat : Int) + 1

/-- The **address that a reference names**. -/
def ofRef (ref : String) : Except Failure Address :=
  match parts? ref with
  | none => refuse (.invalidReference ref .malformed)
  | some (letter, ds) =>
      if digitLimit < ds.length then throw (.numeralTooLong ds.length)
      else pure ⟨(natOfDigits ds : Int) - 1, columnOf letter⟩

/-- The address that a selection names: a reference in letters of either case, with white
space around it. -/
def ofSelection (text : String) : Except Failure Address :=
  ofRef (upper (trim text))

end Address

end SheetFormula
