import SheetFormula.Text.Digit
import SheetFormula.Token.Basic

/-!
# Lexemes

How the characters of a formula are cut into tokens. Each terminal of the language is a
class of texts, and at each place the longest text of the first class that has one there is
taken: a cell reference before a name, a name before the others, no two of which start with
the same character. White space between lexemes is skipped.

## Main statements

* `Lexeme.length_rest_lt`: taking a lexeme leaves a shorter rest.
* `Lexeme.text_append_rest`: a lexeme and the rest are the text it was taken from.
-/

namespace SheetFormula

/-- The **terminals** of the formula language. -/
inductive Terminal
  | cellReference
  | name
  | number
  | openParen
  | closeParen
  | operator
  | comma
  deriving DecidableEq, Repr

namespace Terminal

/-- The label of a terminal. -/
def label : Terminal → String
  | .cellReference => "CELL_REF"
  | .name => "NAME"
  | .number => "NUMBER"
  | .openParen => "LPAREN"
  | .closeParen => "RPAREN"
  | .operator => "OPERATOR"
  | .comma => "COMMA"

/-- The labels of all terminals, in alphabetical order. -/
def labels : List String :=
  [cellReference, comma, openParen, name, number, operator, closeParen].map label

/-- The kind of token that a terminal makes. -/
def kind : Terminal → Token.Kind
  | .cellReference => .cellReference
  | .name => .functionName
  | .number => .number
  | .openParen | .closeParen => .parenthesis
  | .operator => .operator
  | .comma => .separator

end Terminal

/-- A **lexeme**: a text of the class of a terminal. -/
structure Lexeme where
  terminal : Terminal
  chars : List Char
  deriving DecidableEq, Repr

namespace Lexeme

open Text (isDigit)

/-- The ASCII capital letters. -/
def isCapital (c : Char) : Bool := 'A' ≤ c && c ≤ 'Z'

/-- The characters that a name may start with. -/
def isNameStart (c : Char) : Bool := isCapital c || ('a' ≤ c && c ≤ 'z') || c == '_'

/-- The characters that a name may go on with. -/
def isNamePart (c : Char) : Bool := isNameStart c || isDigit c

/-- The characters that may stand between lexemes. -/
def isSpace (c : Char) : Bool :=
  c == ' ' || c == '\t' || c == '\x0c' || c == '\r' || c == '\n'

/-- The arithmetic signs. -/
def isSign (c : Char) : Bool := c == '+' || c == '-' || c == '*' || c == '/'

/-- A point and the digits after it, when there are any, and what is left. -/
def fraction : List Char → List Char × List Char
  | '.' :: d :: r =>
      if isDigit d then ('.' :: d :: r.takeWhile isDigit, r.dropWhile isDigit)
      else ([], '.' :: d :: r)
  | cs => ([], cs)

/-- The lexeme at the beginning of a text, and what is left after it. -/
def next? : List Char → Option (Lexeme × List Char)
  | [] => none
  | c :: r =>
      if isCapital c && (r.head?.any isDigit) then
        some (⟨.cellReference, c :: r.takeWhile isDigit⟩, r.dropWhile isDigit)
      else if isNameStart c then
        some (⟨.name, c :: r.takeWhile isNamePart⟩, r.dropWhile isNamePart)
      else if isDigit c then
        let (tail, rest) := fraction (r.dropWhile isDigit)
        some (⟨.number, c :: r.takeWhile isDigit ++ tail⟩, rest)
      else if c = '(' then some (⟨.openParen, [c]⟩, r)
      else if c = ')' then some (⟨.closeParen, [c]⟩, r)
      else if c = ',' then some (⟨.comma, [c]⟩, r)
      else if isSign c then some (⟨.operator, [c]⟩, r)
      else match fraction (c :: r) with
        | ([], _) => none
        | (cs, rest) => some (⟨.number, cs⟩, rest)

/-- A fraction and what is left after it are the text. -/
theorem fraction_append (cs : List Char) : (fraction cs).1 ++ (fraction cs).2 = cs := by
  unfold fraction
  split
  · split
    · simp [List.takeWhile_append_dropWhile]
    · rfl
  · rfl

/-- A lexeme and what is left after it are the text. -/
theorem text_append_rest {cs rest : List Char} {l : Lexeme} (h : next? cs = some (l, rest)) :
    l.chars ++ rest = cs := by
  cases cs with
  | nil => simp [next?] at h
  | cons c r =>
      simp only [next?] at h
      split at h
      · cases h; simp [List.takeWhile_append_dropWhile]
      split at h
      · cases h; simp [List.takeWhile_append_dropWhile]
      split at h
      · cases h
        simp only [List.cons_append, List.append_assoc, fraction_append,
          List.takeWhile_append_dropWhile]
      split at h
      · cases h; rfl
      split at h
      · cases h; rfl
      split at h
      · cases h; rfl
      split at h
      · cases h; rfl
      have hf := fraction_append (c :: r)
      split at h
      · cases h
      · rename_i hfrac
        cases h
        rw [hfrac] at hf
        exact hf

/-- No lexeme is empty. -/
theorem chars_ne_nil {cs rest : List Char} {l : Lexeme} (h : next? cs = some (l, rest)) :
    l.chars ≠ [] := by
  cases cs with
  | nil => simp [next?] at h
  | cons c r =>
      simp only [next?] at h
      split at h
      · cases h; simp
      split at h
      · cases h; simp
      split at h
      · cases h; simp
      split at h
      · cases h; simp
      split at h
      · cases h; simp
      split at h
      · cases h; simp
      split at h
      · cases h; simp
      split at h
      · cases h
      · rename_i hne _
        cases h
        intro hnil
        exact hne hnil

/-- What is left after a lexeme is shorter than the text. -/
theorem length_rest_lt {cs rest : List Char} {l : Lexeme} (h : next? cs = some (l, rest)) :
    rest.length < cs.length := by
  have happ := text_append_rest h
  have hne := List.length_pos_iff.mpr (chars_ne_nil h)
  rw [← happ, List.length_append]
  omega

/-- The token that a lexeme makes. -/
def token (l : Lexeme) : Token := ⟨l.terminal.kind, String.ofList l.chars⟩

/-- The lexeme as it is shown in messages. -/
def shown (l : Lexeme) : String :=
  "Token(" ++ Text.quoted l.terminal.label ++ ", " ++ Text.quoted (String.ofList l.chars) ++ ")"

/-- The lexemes of a text up to the first place where neither a lexeme nor white space
begins, and the text from that place on. -/
def scan (cs : List Char) : List Lexeme × List Char :=
  match cs with
  | [] => ([], [])
  | c :: r =>
      if isSpace c then scan r
      else match _h : next? (c :: r) with
        | none => ([], c :: r)
        | some (l, rest) =>
            let (ls, stuck) := scan rest
            (l :: ls, stuck)
termination_by cs.length
decreasing_by
  · simp
  · exact length_rest_lt (by assumption)

end Lexeme

end SheetFormula
