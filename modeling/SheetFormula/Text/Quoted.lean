import SheetFormula.Text.Loose
import SheetFormula.Text.Printable

/-!
# Quoted Text

A text shown between quotes, so that its ends and its unprintable characters can be seen.
Single quotes are used, unless the text holds a single quote and no double one. The quote
in use and the backslash get a backslash before them, the tab and the two common line ends
have short names, and other unprintable characters are shown by their number, as are the halves
of characters.
-/

namespace SheetFormula.Text

/-- The lower-case hexadecimal digits of `n`, with zeros before them up to `width`. -/
def hexDigits (width n : Nat) : List Char :=
  let ds := Nat.toDigits 16 n
  List.replicate (width - ds.length) '0' ++ ds

/-- The number of a character behind a backslash, in the shortest of the three forms of
two, four and eight hexadecimal digits that holds it. -/
def numbered (n : Nat) : List Char :=
  if n < 0x100 then '\\' :: 'x' :: hexDigits 2 n
  else if n < 0x10000 then '\\' :: 'u' :: hexDigits 4 n
  else '\\' :: 'U' :: hexDigits 8 n

/-- How a character is shown between the quotes `quote`, when `shown` tells which
characters are shown as they are. -/
def quotedChar (shown : Char → Bool) (quote c : Char) : List Char :=
  if c = quote ∨ c = '\\' then ['\\', c]
  else if c = '\n' then ['\\', 'n']
  else if c = '\r' then ['\\', 'r']
  else if c = '\t' then ['\\', 't']
  else if shown c then [c]
  else numbered c.toNat

/-- How a letter is shown: a half of a character by its number. -/
def quotedLetter (shown : Char → Bool) (quote : Char) : Letter → List Char
  | .whole c => quotedChar shown quote c
  | .half h => numbered h.unit

/-- The quote that surrounds a text. -/
def quoteMark (cs : List Char) : Char :=
  if cs.contains '\'' && !cs.contains '"' then '"' else '\''

/-- A text between quotes, when `shown` tells which characters are shown as they are. -/
def quotedBy (shown : Char → Bool) (s : String) : String :=
  let cs := s.toList
  let quote := quoteMark cs
  String.ofList (quote :: cs.flatMap (quotedChar shown quote) ++ [quote])

/-- A text **between quotes**. -/
def quoted (s : String) : String := quotedBy isPrintable s

/-- A loose text between quotes. -/
def quotedLoose : LooseText → String
  | .whole s => quoted s
  | .torn letters _ =>
      let quote := quoteMark (letters.map (Letter.charOr '\ufffd'))
      String.ofList (quote :: letters.flatMap (quotedLetter isPrintable quote) ++ [quote])

/-- A text in ASCII characters only: the others are shown by their number. -/
def asciiOnly (s : String) : String :=
  String.ofList (s.toList.flatMap fun c => if c.toNat < 0x80 then [c] else numbered c.toNat)

end SheetFormula.Text
