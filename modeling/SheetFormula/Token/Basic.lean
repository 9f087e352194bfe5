import SheetFormula.Text.Quoted

/-!
# Tokens

A token is a piece of formula text with the kind of thing it is. Two tokens are equal when
both their kinds and their texts are.
-/

namespace SheetFormula

/-- What a piece of formula text is. -/
inductive Token.Kind
  | number
  | cellReference
  | functionName
  | parenthesis
  | operator
  | separator
  deriving DecidableEq, Repr

/-- The name of a kind of token. -/
def Token.Kind.name : Kind → String
  | .number => "NUMBER"
  | .cellReference => "CELL_REFERENCE"
  | .functionName => "FUNCTION_NAME"
  | .parenthesis => "PARENTHESIS"
  | .operator => "OPERATOR"
  | .separator => "SEPARATOR"

/-- All kinds of token. -/
def Token.Kind.all : List Kind :=
  [.number, .cellReference, .functionName, .parenthesis, .operator, .separator]

/-- The kind with the given name. -/
def Token.Kind.ofName? (name : String) : Option Kind := all.find? (·.name == name)

/-- Every kind of token is found by its name. -/
theorem Token.Kind.ofName?_name (k : Kind) : ofName? k.name = some k := by
  cases k <;> decide

/-- A **token**: a piece of text and its kind. -/
structure Token where
  kind : Token.Kind
  text : String
  deriving DecidableEq, Repr

namespace Token

/-- Whether the text of the token is exactly the character `c`. -/
def isChar (t : Token) (c : Char) : Bool := t.text.toList == [c]

/-- The token as it is shown in messages. -/
def shown (t : Token) : String := "Token(" ++ t.kind.name ++ ", " ++ Text.quoted t.text ++ ")"

/-- The token that opens a group. -/
def openParen : Token := ⟨.parenthesis, "("⟩

/-- The token that closes a group. -/
def closeParen : Token := ⟨.parenthesis, ")"⟩

end Token

end SheetFormula
