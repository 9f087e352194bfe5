import SheetFormula.Text.Blank
import SheetFormula.Token.Lexeme

/-!
# Where Reading Stops

Cutting a formula text into tokens, and the site at which a text that holds something else
stops the reader: the character there, its line and column, the text around it, and the
lexeme before it.
-/

namespace SheetFormula

open Text

/-- The **site** at which no lexeme begins: the text already read, the character, and the
text after it. `last` is the lexeme read before, and `marked` says whether a sign of
equality stood before the text. -/
structure Site where
  read : List Char
  char : Char
  rest : List Char
  last : Option Lexeme
  marked : Bool
  deriving DecidableEq, Repr

namespace Site

/-- The number of characters on each side that are shown. -/
def span : Nat := 40

/-- The part of a text after its last line feed. -/
def lastLine (cs : List Char) : List Char := (cs.reverse.takeWhile (· ≠ '\n')).reverse

/-- The number of the line, counted from one by line feeds. -/
def line (s : Site) : Nat := s.read.count '\n' + 1

/-- The number of the column in its line, counted from one. -/
def column (s : Site) : Nat := (lastLine s.read).length + 1

/-- The position in the line, counted from zero with the sign of equality. -/
def position (s : Site) : Nat := s.column - 1 + (if s.marked then 1 else 0)

/-- The part of the line before the character that is shown. -/
def before (s : Site) : List Char := lastLine (s.read.drop (s.read.length - span))

/-- The part of the line from the character on that is shown. -/
def after (s : Site) : List Char := ((s.char :: s.rest).take span).takeWhile (· ≠ '\n')

/-- The width of a text whose tabs reach to the next multiple of eight columns. The first
argument is the column that is reached, which a carriage return sets back. -/
def width : Nat → List Char → Nat
  | _, [] => 0
  | column, c :: r =>
      if c = '\t' then (8 - column % 8) + width (column + (8 - column % 8)) r
      else if c = '\r' then 1 + width 0 r
      else 1 + width (column + 1) r

/-- The description of the site: what was found where, the text around it with a mark below
the character, what could have stood there, and what stood before it. -/
def description (s : Site) : String :=
  "No terminal matches '" ++ s.char.toString ++ "' in the current parser context, at line " ++
    toString s.line ++ " col " ++ toString s.column ++ "\n\n" ++
    String.ofList (s.before ++ s.after) ++ "\n" ++
    String.ofList (List.replicate (width 0 s.before) ' ') ++ "^\n" ++
    "Expected one of: \n" ++
    String.join (Terminal.labels.map fun label => "\t* " ++ label ++ "\n") ++
    (match s.last with
      | none => ""
      | some l => "\nPrevious tokens: " ++ l.shown ++ "\n")

end Site

/-- A formula text without the white space around it and without the sign of equality at
its beginning, and whether that was there. -/
def formulaChars (text : String) : Bool × List Char :=
  match trimBlanks text.toList with
  | '=' :: r => (true, r)
  | r => (false, r)

/-- The **tokens** of a formula text. -/
def tokenize (text : String) : Except Site (List Token) :=
  let (marked, cs) := formulaChars text
  match Lexeme.scan cs with
  | (lexemes, []) => .ok (lexemes.map Lexeme.token)
  | (lexemes, c :: rest) =>
      .error {
        read := cs.take (cs.length - (rest.length + 1))
        char := c
        rest := rest
        last := lexemes.getLast?
        marked := marked }

end SheetFormula
