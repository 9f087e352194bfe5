import SheetFormula.Fault.Report
import SheetFormula.Function.Basic
import SheetFormula.Token.Site

/-!
# Faults

What can be wrong with a formula, by cause, and what can stop its computation beside that.
`Fault.report` holds the kind, the wording and the details of each cause.
-/

namespace SheetFormula

open Text Decimal

/-- Why a cell reference has no value. -/
inductive Reason
  | malformed
  | noGrid
  | outOfRange (rows : Int)
  | nonPositiveRow
  | selfReference
  /-- The cell holds something else, which is shown. -/
  | notANumber (shown : String)
  deriving DecidableEq, Repr

namespace Reason

/-- The label of a reason. -/
def label : Reason → String
  | .malformed => "malformed"
  | .noGrid => "no_grid"
  | .outOfRange _ => "out_of_range"
  | .nonPositiveRow => "non_positive_row"
  | .selfReference => "self_reference"
  | .notANumber _ => "not_a_number"

/-- The reason in a sentence. -/
def message : Reason → String
  | .malformed => "Expected a column letter followed by a row number."
  | .noGrid => "No grid is available to resolve it."
  | .outOfRange rows => "The table has only " ++ intText rows ++ " rows."
  | .nonPositiveRow => "The row should be greater than zero."
  | .selfReference => "Cell can't reference itself."
  | .notANumber shown => "Cell does not contain a number (found " ++ shown ++ ")."

end Reason

/-- A **fault** in a formula. -/
inductive Fault
  /-- A character that no token begins with. -/
  | unreadable (site : Site)
  /-- Parentheses that do not match. -/
  | unbalanced
  /-- Parentheses of a call that do not match. -/
  | unbalancedCall (name : String)
  /-- Nothing where an expression has to stand. -/
  | emptyExpression
  /-- Nothing after the last comma of a call. -/
  | missingArgument (name : String)
  /-- Nothing on one side of a product or quotient. -/
  | missingOperand
  /-- Nothing after the last operator. -/
  | danglingOperator (operator : String)
  /-- A single token that is no operand. -/
  | unexpectedToken (t : Token)
  /-- A number token whose text is no number. -/
  | invalidNumber (t : Token)
  /-- Several tokens that are neither a group nor a call. -/
  | unexpectedSequence (ts : List Token)
  | unknownFunction (name : String)
  | wrongArity (f : Function) (got : Int)
  | invalidReference (ref : String) (reason : Reason)
  | divisionByZero
  | unsupportedOperator (operator : String)
  /-- Arguments for which a function has no value. -/
  | outsideDomain (f : Function) (args : List Float)
  /-- Arguments for which the value of a function lies beyond all doubles. -/
  | outsideRange (f : Function) (args : List Float)

namespace Fault

/-- The short text of a double in messages: at most six significant digits. -/
def shortText (x : Float) : String := (Layout.general 6).text x

/-- The message on a call for which a function has no double as its value. -/
def callMessage (f : Function) (args : List Float) (cause : String) : String :=
  f.name ++ "(" ++ ", ".intercalate (args.map shortText) ++ "): " ++ cause

/-- The **report** of a fault. -/
def report : Fault → Report
  | .unreadable site =>
      .parse .parse ("Unexpected character in formula: " ++ site.description)
        (some (.whole site.position, toString site.position)) []
  | .unbalanced => .parse .parentheses "Wrong parenthesis" none []
  | .unbalancedCall name =>
      .parse .parentheses ("Mismatched parentheses in function call: " ++ name) none []
  | .emptyExpression => .parse .empty "Empty expression" none []
  | .missingArgument name => .parse .empty ("Missing argument in call to " ++ name) none []
  | .missingOperand => .parse .empty "Missing operand for '*' or '/'" none []
  | .danglingOperator operator =>
      .parse .empty ("Expression ends with operator " ++ quoted operator) none []
  | .unexpectedToken t => .ofTokens .token [t] none
  | .invalidNumber t => .ofTokens .token [t] (some ("Invalid number: " ++ quoted t.text))
  | .unexpectedSequence ts => .ofSequence ts
  | .unknownFunction name => .ofFunction .unknownFunction (.text name) (quoted name) none
  | .wrongArity f got =>
      .ofArity f.label (.text f.arityText) (.whole got) f.arityText (intText got)
  | .invalidReference ref reason =>
      .ofReference (.text ref) (.text reason.label) ref reason.message
  | .divisionByZero => .division
  | .unsupportedOperator operator => .ofOperator (.text operator) (quoted operator)
  | .outsideDomain f args => .plain .evaluation (callMessage f args "math domain error")
  | .outsideRange f args => .plain .evaluation (callMessage f args "math range error")

/-- The kind of a fault. -/
def kind (f : Fault) : Kind := f.report.kind

/-- The message of a fault. -/
def message (f : Fault) : String := f.report.message

end Fault

/-- What stops a computation: a **fault** in the formula, or a limit of the computation
that is none. -/
inductive Failure
  | fault (f : Fault)
  /-- A row number of more digits than are read. -/
  | numeralTooLong (digits : Nat)
  /-- An integer of more digits than are written. -/
  | unwritable
  /-- An integer beyond all doubles. -/
  | tooWide
  /-- A node of a tree that has no value and no text. -/
  | unfilled
  /-- A call without a token to call. -/
  | noTokens

namespace Failure

/-- The message of a failure. -/
def message : Failure → String
  | .fault f => f.message
  | .numeralTooLong digits =>
      "Exceeds the limit (4300 digits) for integer string conversion: value has " ++
        toString digits ++ " digits; use sys.set_int_max_str_digits() to increase the limit"
  | .unwritable =>
      "Exceeds the limit (4300 digits) for integer string conversion; " ++
        "use sys.set_int_max_str_digits() to increase the limit"
  | .tooWide => "int too large to convert to float"
  | .unfilled => ""
  | .noTokens => "list index out of range"

/-- Whether the failure is a fault in the formula. -/
def isFault : Failure → Bool
  | .fault _ => true
  | _ => false

/-- A sequence fails in its first part, or in its second part on the answer of the first. -/
theorem bind_eq_error_iff {α β : Type} {x : Except Failure α} {k : α → Except Failure β}
    {e : Failure} :
    (x >>= k) = .error e ↔ x = .error e ∨ ∃ a, x = .ok a ∧ k a = .error e := by
  cases x with
  | error e' => simp [bind, Except.bind]
  | ok a => simp [bind, Except.bind]

end Failure

/-- Ends a computation with a fault. -/
def refuse {m : Type → Type} [MonadExceptOf Failure m] {α : Type} (f : Fault) : m α :=
  throw (Failure.fault f)

end SheetFormula
