import SheetFormula.Decimal.Layout
import SheetFormula.Decimal.Numeral
import SheetFormula.Json.Basic
import SheetFormula.Text.Quoted

/-!
# Writing JSON

A value as text in ASCII characters: on one line with the fields of each record in the
order of their names, as log lines are written, or on several lines with indentation. A
value that holds an integer beyond the digit limit has no text.
-/

namespace SheetFormula.Json

open Decimal

/-- The escape of a code unit of sixteen bits. -/
def unitEscape (n : Nat) : List Char := '\\' :: 'u' :: Text.hexDigits 4 n

/-- A character inside a text: printable ASCII characters stand for themselves, the quote
and the backslash have a backslash before them, five controls have short names, and all
others are written as one or two code units. -/
def charText (c : Char) : List Char :=
  let n := c.toNat
  if c = '"' then ['\\', '"']
  else if c = '\\' then ['\\', '\\']
  else if c = '\n' then ['\\', 'n']
  else if c = '\r' then ['\\', 'r']
  else if c = '\t' then ['\\', 't']
  else if n = 12 then ['\\', 'f']
  else if n = 8 then ['\\', 'b']
  else if 0x20 ≤ n ∧ n < 0x7f then [c]
  else if n < 0x10000 then unitEscape n
  else unitEscape (0xd800 + (n - 0x10000) / 0x400) ++ unitEscape (0xdc00 + (n - 0x10000) % 0x400)

/-- A text between quotes. -/
def quote (s : String) : String :=
  String.ofList ('"' :: s.toList.flatMap charText ++ ['"'])

/-- The text of a double. -/
def realText (x : Float) : String :=
  match Binary.ofFloat x with
  | .nan => "NaN"
  | .infinite negative => if negative then "-Infinity" else "Infinity"
  | .finite .. => plainText x

/-- The text of an integer within the digit limit. -/
def wholeText? (i : Int) : Option String := if writable i then some (intText i) else none

/-- Named values with one more, before the first one whose name comes after its own. -/
def insertByName {α : Type} (field : String × α) : List (String × α) → List (String × α)
  | [] => [field]
  | f :: r => if field.1 < f.1 then field :: f :: r else f :: insertByName field r

/-- Named values in the order of their names. -/
def sortByName {α : Type} (fields : List (String × α)) : List (String × α) :=
  fields.foldr insertByName []

mutual

/-- The value with the fields of every record in the order of their names. -/
def sorted : Json → Json
  | .list items => .list (sortedList items)
  | .record fields => .record (sortByName (sortedFields fields))
  | j => j

def sortedList : List Json → List Json
  | [] => []
  | j :: r => sorted j :: sortedList r

def sortedFields : List (String × Json) → List (String × Json)
  | [] => []
  | (name, j) :: r => (name, sorted j) :: sortedFields r

end

mutual

/-- The value on **one line**. -/
def line? : Json → Option String
  | .null => some "null"
  | .bool b => some (if b then "true" else "false")
  | .whole i => wholeText? i
  | .real x => some (realText x)
  | .text s => some (quote s)
  | .list items => (lineList? items).map fun parts => "[" ++ ", ".intercalate parts ++ "]"
  | .record fields =>
      (lineFields? fields).map fun parts => "\x7b" ++ ", ".intercalate parts ++ "\x7d"

def lineList? : List Json → Option (List String)
  | [] => some []
  | j :: r => do
      let part ← line? j
      let parts ← lineList? r
      return part :: parts

def lineFields? : List (String × Json) → Option (List String)
  | [] => some []
  | (name, j) :: r => do
      let value ← line? j
      let parts ← lineFields? r
      return (quote name ++ ": " ++ value) :: parts

end

/-- Parts between brackets on lines of their own, `depth` being the depth of the brackets in
an indentation of two spaces. -/
def block (opening closing : String) (depth : Nat) (parts : List String) : String :=
  if parts.isEmpty then opening ++ closing
  else
    let margin (d : Nat) : String := "\n" ++ String.ofList (List.replicate (2 * d) ' ')
    opening ++ margin (depth + 1) ++ ("," ++ margin (depth + 1)).intercalate parts ++
      margin depth ++ closing

mutual

/-- The value on **several lines**, at a depth of indentation. -/
def indented? (depth : Nat) : Json → Option String
  | .list items => (indentedList? (depth + 1) items).map (block "[" "]" depth)
  | .record fields => (indentedFields? (depth + 1) fields).map (block "\x7b" "\x7d" depth)
  | j => line? j

def indentedList? (depth : Nat) : List Json → Option (List String)
  | [] => some []
  | j :: r => do
      let part ← indented? depth j
      let parts ← indentedList? depth r
      return part :: parts

def indentedFields? (depth : Nat) : List (String × Json) → Option (List String)
  | [] => some []
  | (name, j) :: r => do
      let value ← indented? depth j
      let parts ← indentedFields? depth r
      return (quote name ++ ": " ++ value) :: parts

end

end SheetFormula.Json
