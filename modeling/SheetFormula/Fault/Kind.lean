/-!
# Kinds of Formula Error

Formula errors come in kinds, from the general to the particular: each kind but the most
general one is a special case of another. Every kind has a name, which log lines carry, and
a stable code.
-/

namespace SheetFormula

/-- The **kinds** of formula error. -/
inductive Fault.Kind
  | formula
  | parse
  | parentheses
  | empty
  | token
  | sequence
  | function
  | unknownFunction
  | arity
  | reference
  | cell
  | evaluation
  | division
  | operator
  deriving DecidableEq, Repr

namespace Fault.Kind

/-- All kinds of formula error. -/
def all : List Kind :=
  [.formula, .parse, .parentheses, .empty, .token, .sequence, .function, .unknownFunction,
    .arity, .reference, .cell, .evaluation, .division, .operator]

/-- The name of a kind. -/
def name : Kind → String
  | .formula => "FormulaError"
  | .parse => "FormulaParseError"
  | .parentheses => "MalformedParenthesesError"
  | .empty => "EmptyExpressionError"
  | .token => "UnexpectedTokenError"
  | .sequence => "UnexpectedTokenSequenceError"
  | .function => "FormulaFunctionError"
  | .unknownFunction => "UnknownFunctionError"
  | .arity => "ArityMismatchError"
  | .reference => "FormulaRefError"
  | .cell => "InvalidCellReferenceError"
  | .evaluation => "FormulaEvalError"
  | .division => "DivisionByZeroError"
  | .operator => "UnsupportedOperatorError"

/-- The kind that the given one is a special case of. -/
def parent? : Kind → Option Kind
  | .formula => none
  | .parse | .function | .reference | .evaluation => some .formula
  | .parentheses | .empty | .token => some .parse
  | .sequence => some .token
  | .unknownFunction | .arity => some .function
  | .cell => some .reference
  | .division | .operator => some .evaluation

/-- The kind itself and all kinds that it is a special case of. No chain is longer than
four. -/
def lineage (k : Kind) : List Kind :=
  go 4 k
where
  go : Nat → Kind → List Kind
    | 0, k => [k]
    | n + 1, k => k :: (match k.parent? with
        | none => []
        | some p => go n p)

/-- Whether a kind is the other one or a special case of it. -/
def isA (k other : Kind) : Bool := k.lineage.contains other

/-- Whether the kind is one of those that reading and evaluating a formula report. -/
def isReported (k : Kind) : Bool :=
  k.isA .parse || k.isA .function || k.isA .reference || k.isA .evaluation

/-- The code of a kind: that of the nearest kind of its lineage that has one of its own. -/
def code : Kind → String
  | .parentheses => "malformed_parentheses"
  | .empty => "empty_expression"
  | .token | .sequence => "unexpected_token"
  | .unknownFunction => "unknown_function"
  | .arity => "arity_mismatch"
  | .cell => "invalid_cell_reference"
  | .division => "division_by_zero"
  | .operator => "unsupported_operator"
  | .formula | .parse | .function | .reference | .evaluation => "formula_error"

/-- The kinds that are reported are all but the one of all formulas. -/
theorem isReported_iff (k : Kind) : k.isReported = true ↔ k ≠ .formula := by
  cases k <;> decide

end Fault.Kind

end SheetFormula
