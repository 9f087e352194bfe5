/-!
# Blanks and Lines

Which characters count as white space, trimming a text of them at both ends, and cutting a
text into lines. The class is that of Unicode: the space separators, the line and
paragraph separators, and the control characters that separate fields or move the
carriage.
-/

namespace SheetFormula.Text

/-- The **white space** characters. -/
def isBlank (c : Char) : Bool :=
  let n := c.toNat
  (9 ≤ n && n ≤ 13) || (28 ≤ n && n ≤ 32) || n == 0x85 || n == 0xa0 || n == 0x1680 ||
    (0x2000 ≤ n && n ≤ 0x200a) || n == 0x2028 || n == 0x2029 || n == 0x202f ||
    n == 0x205f || n == 0x3000

/-- A list of characters without the ones at its end that satisfy `p`. -/
def dropEnd (p : Char → Bool) (cs : List Char) : List Char :=
  (cs.reverse.dropWhile p).reverse

/-- A list of characters without the ones at its two ends that satisfy `p`. -/
def trimBy (p : Char → Bool) (cs : List Char) : List Char :=
  dropEnd p (cs.dropWhile p)

/-- A list of characters without white space at its two ends. -/
def trimBlanks (cs : List Char) : List Char := trimBy isBlank cs

/-- A text without white space at its two ends. -/
def trim (s : String) : String := String.ofList (trimBlanks s.toList)

/-- The characters that end a **line**. -/
def isLineEnd (c : Char) : Bool :=
  let n := c.toNat
  (10 ≤ n && n ≤ 13) || (28 ≤ n && n ≤ 30) || n == 0x85 || n == 0x2028 || n == 0x2029

/-- A text whose line ends are all line feeds: a carriage return, with or without a line
feed after it, is read as one. -/
def unifyLineEnds : List Char → List Char
  | [] => []
  | '\r' :: '\n' :: r => '\n' :: unifyLineEnds r
  | c :: r => (if c = '\r' then '\n' else c) :: unifyLineEnds r

/-- A text cut after each character that ends a line, without these characters. A text
that ends with one has no further, empty line. -/
def cutLines : List Char → List (List Char)
  | [] => []
  | c :: r =>
      if isLineEnd c then [] :: cutLines r
      else match cutLines r with
        | [] => [[c]]
        | l :: ls => (c :: l) :: ls

/-- The **lines** of a text. -/
def lines (cs : List Char) : List (List Char) := cutLines (unifyLineEnds cs)

end SheetFormula.Text
