import SheetFormula.Files

/-!
# Patterns of File Names

A name with wildcards stands for all files whose names fit it, part by part: an asterisk
stands for any text, a question mark for any character, and square brackets for one of the
characters between them, or for any other one if an exclamation mark comes first. A hyphen
between two characters there stands for all characters from the one to the other.
-/

namespace SheetFormula

/-- A piece of a **pattern**. -/
inductive FileName.Piece
  | exactly (c : Char)
  | anyCharacter
  | anyText
  /-- A character in one of the ranges, or in none of them. -/
  | among (isExcept : Bool) (ranges : List (Char × Char))
  deriving DecidableEq, Repr

namespace FileName.Piece

/-- Whether a character fits a piece that stands for one character. -/
def permits (c : Char) : Piece → Bool
  | exactly d => c == d
  | anyCharacter => true
  | anyText => false
  | among isExcept ranges => isExcept != ranges.any fun (a, b) => a ≤ c && c ≤ b

/-- Whether a text fits pieces. -/
def fit : List Piece → List Char → Bool
  | [], cs => cs.isEmpty
  | anyText :: ps, cs => (List.range (cs.length + 1)).any fun n => fit ps (cs.drop n)
  | _ :: _, [] => false
  | p :: ps, c :: cs => p.permits c && fit ps cs

/-- The ranges that the characters between brackets write. -/
def ranges : List Char → List (Char × Char)
  | a :: '-' :: b :: r => (a, b) :: ranges r
  | a :: r => (a, a) :: ranges r
  | [] => []

/-- The piece that begins with an opening bracket, and what is left after it. There is a
character between the brackets, which may be a closing bracket itself. -/
def bracket? (cs : List Char) : Option (Piece × List Char) :=
  let (isExcept, members) := match cs with
    | '!' :: r => (true, r)
    | r => (false, r)
  match members with
  | [] => none
  | first :: r =>
      match r.dropWhile (· ≠ ']') with
      | [] => none
      | _ :: rest => some (among isExcept (ranges (first :: r.takeWhile (· ≠ ']'))), rest)

/-- The pieces that a text writes, none when a bracket is not closed or two asterisks follow
one another. The first argument bounds their number; the length of the text is always
enough. -/
def ofChars? : Nat → List Char → Option (List Piece)
  | _, [] => some []
  | 0, _ => none
  | fuel + 1, '[' :: r => do
      let (p, rest) ← bracket? r
      return p :: (← ofChars? fuel rest)
  | _ + 1, '*' :: '*' :: _ => none
  | fuel + 1, c :: r => do
      let p := if c = '*' then anyText else if c = '?' then anyCharacter else exactly c
      return p :: (← ofChars? fuel r)

end FileName.Piece

/-- Whether a text has a wildcard in it. -/
def FileName.isPattern (text : String) : Bool :=
  text.any fun c => c == '*' || c == '?' || c == '['

namespace Files

/-- The names of what is in a directory, in their order. -/
def namesIn (fs : Files) (place : Path) : List String :=
  let paths := fs.texts.map (·.1) ++ fs.directories
  let names := paths.filterMap fun p =>
    if place.isPrefixOf p then (p.drop place.length).head? else none
  names.eraseDups.mergeSort fun a b => !(b < a)

/-- The places from a place on that a name with wildcards stands for, none when one of its
parts is no pattern. -/
def placesFrom? (fs : Files) : Path → FileName → Option (List Path)
  | place, [] => some [place]
  | place, part :: rest =>
      if FileName.isPattern part then do
        let ps ← FileName.Piece.ofChars? part.length part.toList
        let names := (fs.namesIn place).filter fun name => FileName.Piece.fit ps name.toList
        let found ← names.mapM fun name => fs.placesFrom? (place ++ [name]) rest
        return found.flatten
      else fs.placesFrom? (step place part) rest

/-- The texts of the **files that a name with wildcards stands for**, in the order of their
names, none when it is no pattern. -/
def textsMatching? (fs : Files) (name : FileName) : Option (List String) :=
  (fs.placesFrom? fs.here name).map fun places => places.filterMap fs.content?

end Files

example : (FileName.Piece.ofChars? 10 "g[0-9!]*.c".toList).map (fun ps =>
    FileName.Piece.fit ps "g7x.c".toList) = some true := by decide +kernel

end SheetFormula
