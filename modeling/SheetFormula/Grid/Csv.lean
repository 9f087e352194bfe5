import SheetFormula.Grid.Basic

/-!
# Frames from Text

A frame from a text of fields between commas, one row a line, with the names of the columns
in the first line that is not blank. A field that begins with a quote goes on to the next
comma or line end outside quotes, and a doubled quote inside it stands for one. An empty field
without quotes holds nothing. A row may lack fields at its end, but it may not have more than
there are columns, so a blank line is a row without anything.

Quotes count in two ways. A line, as such, ends at a line feed that an even number of quotes
comes before, wherever they stand. A field looks at quotes only if it begins with one. A text
is unreadable unless both ways find the same number of rows.
-/

namespace SheetFormula.Frame

/-- What ends a field. -/
inductive Csv.End
  | separator
  | line
  | text
  deriving DecidableEq

namespace Csv

/-- A field up to its end outside quotes, what ended it, and what is left. The flag says
whether quotes count, the second one whether one of them is open. -/
def fieldFrom (quoting : Bool) : Bool → List Char → List Char × End × List Char
  | _, [] => ([], .text, [])
  | isOpen, c :: r =>
      let isOpen := if quoting && c == '"' then !isOpen else isOpen
      if !isOpen && c == ',' then ([], .separator, r)
      else if !isOpen && c == '\n' then ([], .line, r)
      else
        let (field, ending, rest) := fieldFrom quoting isOpen r
        (c :: field, ending, rest)

/-- The field at the beginning of a text. -/
def field (cs : List Char) : List Char × End × List Char :=
  fieldFrom (cs.head? == some '"') false cs

/-- A field without a carriage return at its end. -/
def dropReturn (cs : List Char) : List Char :=
  if cs.getLast? = some '\r' then cs.dropLast else cs

/-- The inside of a quoted field: of each two quotes in a row the second one stays, and a
quote alone does not. -/
def unquote : List Char → List Char
  | '"' :: '"' :: r => '"' :: unquote r
  | c :: r => if c = '"' then unquote r else c :: unquote r
  | [] => []

/-- The text of a field. One that begins with a quote must be longer and end with one. -/
def fieldText (field : List Char) : Except Fault (Option String) :=
  match dropReturn field with
  | [] => pure none
  | '"' :: r =>
      if r.getLast? = some '"' then pure (some (String.ofList (unquote r.dropLast)))
      else throw .unreadable
  | cs => pure (some (String.ofList cs))

/-- The row of `count` fields at the beginning of a text, and what is left after it. Fields
that the line lacks hold nothing. -/
def row : Nat → List Char → Except Fault (List (Option String) × List Char)
  | 0, cs => pure ([], cs)
  | count + 1, cs => do
      let (chars, ending, rest) := field cs
      let text ← fieldText chars
      match ending with
      | .separator =>
          if count = 0 then
            if rest.isEmpty then return ([text], []) else throw .unreadable
          else
            let (texts, rest) ← row count rest
            return (text :: texts, rest)
      | .line | .text => return (text :: List.replicate count none, rest)

/-- The rows of `width` fields of a text. The first argument bounds the number of rows; the
length of the text is always enough. -/
def rows (width : Nat) : Nat → List Char → Except Fault (List (List (Option String)))
  | 0, _ => pure []
  | _, [] => pure []
  | fuel + 1, cs => do
      let (first, rest) ← row width cs
      let others ← rows width fuel rest
      return first :: others

/-- The first line of a text, and what is left after it. The flag says whether a quote is
open. -/
def lineFrom : Bool → List Char → List Char × List Char
  | _, [] => ([], [])
  | isOpen, c :: r =>
      if c = '\n' ∧ !isOpen then ([], r)
      else
        let (line, rest) := lineFrom (isOpen != (c == '"')) r
        (c :: line, rest)

/-- How many line ends stand outside of quotes. The flag says whether a quote is open. -/
def lineEnds : Bool → List Char → Nat
  | _, [] => 0
  | isOpen, c :: r =>
      (if c = '\n' ∧ !isOpen then 1 else 0) + lineEnds (isOpen != (c == '"')) r

/-- The number of lines of a text: one for each line end, and one for what comes after the
last line end, unless the text ends with that. -/
def lineCount (cs : List Char) : Nat :=
  lineEnds false cs + (match cs.getLast? with
    | none | some '\n' => 0
    | some _ => 1)

/-- The first line that is not blank, and what is left after it, none when there is no such
line. The first argument bounds the number of lines; the length of the text is always
enough. -/
def header? : Nat → List Char → Option (List Char × List Char)
  | 0, _ => none
  | _, [] => none
  | fuel + 1, cs =>
      let (line, rest) := lineFrom false cs
      if line.isEmpty || line == ['\r'] then header? fuel rest
      else some (line, rest)

/-- The fields of a line. The first argument bounds their number; the length of the line is
always enough. -/
def fields : Nat → List Char → List (List Char)
  | 0, _ => []
  | fuel + 1, cs =>
      match field cs with
      | (chars, .separator, rest) => chars :: fields fuel rest
      | (chars, _, _) => [chars]

/-- The end of a text whose last byte is taken away: a character of several bytes becomes the
one that stands for what is no character. -/
def dropByte : List Char → List Char
  | [] => []
  | [c] => if c.toNat < 0x80 then [] else ['\ufffd']
  | c :: r => c :: dropByte r

/-- The name of a column: a field that begins with a quote is without that and without its
last byte, if there is more than the quote. -/
def columnName (field : List Char) : String :=
  match field with
  | '"' :: c :: r => String.ofList (dropByte (c :: r))
  | cs => String.ofList cs

/-- Names in which each one that occurred before is marked with the number of times it did
so. -/
def distinguish (names : List String) : List String :=
  (List.range names.length).zip names |>.map fun (i, name) =>
    match (names.take i).count name with
    | 0 => name
    | n + 1 => name ++ "_duplicated_" ++ toString n

end Csv

/-- The **frame that a text writes**. -/
def ofCsv (text : String) : Except Fault Frame := do
  let cs := match text.toList with
    | '\ufeff' :: r => r
    | r => r
  let some (line, rest) := Csv.header? (cs.length + 1) cs | throw .noData
  let fields := Csv.fields (line.length + 1) (Csv.dropReturn line)
  let columns := Csv.distinguish (fields.map Csv.columnName)
  if columns.eraseDups.length < columns.length then throw .duplicate
  let rows ← Csv.rows columns.length (rest.length + 1) rest
  if rows.length ≠ Csv.lineCount rest then throw .unreadable
  return { columns, rows }

/-- The frame that several texts write one after the other, which have the same columns. -/
def ofTexts (texts : List String) : Except Fault Frame := do
  match ← texts.mapM ofCsv with
  | [] => throw .unreadable
  | first :: others =>
      if others.all (·.columns = first.columns) then
        return { first with rows := first.rows ++ others.flatMap (·.rows) }
      else throw .unreadable

end SheetFormula.Frame
