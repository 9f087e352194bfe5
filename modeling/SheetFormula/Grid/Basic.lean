import SheetFormula.Cell.Address
import SheetFormula.Datum
import SheetFormula.Decimal.Read

/-!
# Grids

The tables that formulas refer to. A frame has named columns of texts, all of one length,
and its first column holds the labels of the rows. A sparse sheet has a number of rows and
a value for some of the addresses. A grid is one of the two with the cell that is selected,
the one whose formula is being entered.
-/

namespace SheetFormula

/-- A **frame**: the names of its columns, and rows with a text or nothing for each. -/
structure Frame where
  columns : List String
  rows : List (List (Option String))

/-- The contents of a grid. -/
inductive Sheet
  | frame (f : Frame)
  | sparse (rowCount : Int) (cells : List (Address × Json))

/-- A **grid**: its contents and the selected cell. -/
structure Grid where
  sheet : Sheet
  selected : Option Address

/-- Why a frame cannot be built. -/
inductive Frame.Fault
  /-- The rows are not as wide as the columns are many. -/
  | shape
  /-- The text of the table is empty. -/
  | noData
  /-- A line of the text has more fields than the table has columns, its quotes are not
  closed as they should be, or there is no such text. -/
  | unreadable
  /-- Two columns have one name. -/
  | duplicate
  /-- A cell holds an integer of more digits than are written. -/
  | unwritable
  /-- There are more columns than there are characters to name them. -/
  | unnamed
  /-- The name of a column is a half of a character. -/
  | torn
  deriving DecidableEq

namespace Frame

/-- The name of the column with a number from zero behind the labels: the character so far behind
`A`, or a half of a character, if there is one. -/
def columnName? (i : Nat) : Option LooseText :=
  (Letter.ofNat? ('A'.toNat + i)).map fun l => .ofLetters [l]

/-- The names of `count` columns: the labels, then single characters. -/
def columnNames? (count : Nat) : Option (List LooseText) := do
  let names ← (List.range (count - 1)).mapM columnName?
  return .whole "label" :: names

/-- The text of a cell in a frame: nothing for null, else the text of the value. -/
def cellText (value : Json) : Except Fault (Option String) :=
  match value with
  | .null => pure none
  | v => match (Datum.ofJson v).text? with
      | some s => pure (some s)
      | none => throw .unwritable

/-- The number of columns that rows take, at least the one of the labels when there are no
rows. -/
def widthOf (rows : List (List Json)) : Nat :=
  match rows with
  | [] => 1
  | _ => (rows.map List.length).foldl max 0

/-- A frame of rows whose first item is the label of the row. Rows are filled up with empty
cells to the length of the longest one. The columns must have names of characters. -/
def ofRows (rows : List (List Json)) : Except Fault Frame := do
  let width := widthOf rows
  let some names := columnNames? width | throw .unnamed
  let texts ← rows.mapM fun row => row.mapM cellText
  if width = 0 then throw .shape
  let some columns := names.mapM LooseText.string? | throw .torn
  return {
    columns
    rows := texts.map fun row => row ++ List.replicate (width - row.length) none }

end Frame

namespace Grid

/-- The number of rows. -/
def rowCount (g : Grid) : Int :=
  match g.sheet with
  | .frame f => f.rows.length
  | .sparse n _ => n

/-- The item of a list at a place counted from zero. -/
def item? {α : Type} (xs : List α) (i : Int) : Option α :=
  if 0 ≤ i then xs[i.toNat]? else none

/-- The **raw value** at an address, null where there is none. -/
def valueAt (g : Grid) (a : Address) : Json :=
  match g.sheet with
  | .frame f =>
      match item? f.rows a.row with
      | none => .null
      | some row =>
          match item? row a.column with
          | some (some s) => .text s
          | _ => .null
  | .sparse _ cells =>
      match cells.find? (·.1 == a) with
      | some (_, v) => v
      | none => .null

/-- The grid with a cell selected, or none. -/
def select (g : Grid) (a : Option Address) : Grid := { g with selected := a }

end Grid

/-- The number that the text of a cell writes: white space around it counts for nothing,
and there is no underscore in it. -/
def cellNumber? (text : String) : Option Float :=
  let s := Text.trim text
  if s.toList.contains '_' then none else Decimal.read? s

/-- The number that a raw value writes, if it writes one. -/
def rawNumber? (raw : Json) : Except Failure (Option Float) :=
  match raw with
  | .null => pure none
  | v => match (Datum.ofJson v).text? with
      | some s => pure (cellNumber? s)
      | none => throw .unwritable

/-- Refuses a reference to an address that is no cell of the grid, or is the selected one. -/
def Grid.permit (g : Grid) (ref : String) (a : Address) : Except Failure Unit :=
  if g.rowCount ≤ a.row then
    if Decimal.writable g.rowCount then
      refuse (.invalidReference ref (.outOfRange g.rowCount))
    else throw .unwritable
  else if a.row < 0 then refuse (.invalidReference ref .nonPositiveRow)
  else if g.selected = some a then refuse (.invalidReference ref .selfReference)
  else pure ()

/-- The number in the cell with the given raw value, to which a reference points. -/
def cellValue (ref : String) (raw : Json) : Except Failure Float := do
  match ← rawNumber? raw, (Datum.ofJson raw).shown? with
  | some x, _ => pure x
  | none, some shown => refuse (.invalidReference ref (.notANumber shown))
  | none, none => throw .unwritable

/-- The **number in the cell** that a reference names. -/
def resolve (grid : Option Grid) (ref : String) : Except Failure Float :=
  match grid with
  | none => refuse (.invalidReference ref .noGrid)
  | some g => do
      let a ← Address.ofRef ref
      g.permit ref a
      cellValue ref (g.valueAt a)

end SheetFormula
