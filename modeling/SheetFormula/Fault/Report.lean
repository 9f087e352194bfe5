import SheetFormula.Datum
import SheetFormula.Fault.Kind
import SheetFormula.Text.Uppercase
import SheetFormula.Token.Basic

/-!
# Reports of Formula Errors

What is told about a formula error: its kind, its message, and the details that its kind
has. The functions of this module hold all wording that depends on the details alone.
-/

namespace SheetFormula.Fault

open Text

/-- A **detail** of a formula error. -/
inductive Detail
  | position (p : Datum)
  | tokens (ts : List Token)
  | functionName (name : Datum)
  | expected (text : Datum)
  | got (count : Datum)
  | ref (text : Datum)
  | reason (text : Datum)
  | operator (text : Datum)

/-- A **report** of a formula error. -/
structure Report where
  kind : Kind
  message : String
  details : List Detail

namespace Report

/-- An error without details. -/
def plain (kind : Kind) (message : String) : Report := ⟨kind, message, []⟩

/-- An error in the form of a formula, with the position at which it was found if that is
known. -/
def parse (kind : Kind) (message : String) (position : Option (Datum × String))
    (details : List Detail) : Report :=
  { kind := kind
    message := "Formula parse error: " ++ message ++ (match position with
      | none => ""
      | some (_, text) => " (at position " ++ text ++ ")")
    details := .position ((position.map (·.1)).getD .null) :: details }

/-- The message on a token where none of its kind can stand. -/
def unexpectedToken (ts : List Token) : String :=
  "Unexpected token: " ++ quoted ((ts.head?.map Token.text).getD "")

/-- An error in a list of tokens. Without a message of its own it blames the first one. -/
def ofTokens (kind : Kind) (ts : List Token) (message : Option String) : Report :=
  parse kind (message.getD (unexpectedToken ts)) none [.tokens ts]

/-- An error in a sequence of tokens that is neither a group nor a call. -/
def ofSequence (ts : List Token) : Report :=
  ofTokens .sequence ts
    (some ("Unexpected token sequence: " ++ quoted (" ".intercalate (ts.map Token.text))))

/-- An error in the use of a function, whose name is also given as it is shown. Without a
message the name is said to be unknown. -/
def ofFunction (kind : Kind) (name : Datum) (shown : String) (message : Option String) :
    Report :=
  { kind := kind
    message := message.getD ("Unknown function: " ++ shown)
    details := [.functionName name] }

/-- A call with a wrong number of arguments. The texts are those of the two details. -/
def ofArity (name : String) (expected got : Datum) (expectedText gotText : String) : Report :=
  let base := ofFunction .arity (.text name) (quoted name)
    (some (upper name ++ " requires " ++ expectedText ++ " argument(s), got " ++ gotText))
  { base with details := base.details ++ [.expected expected, .got got] }

/-- A cell reference that has no value. -/
def ofReference (ref reason : Datum) (refText message : String) : Report :=
  { kind := .cell
    message := "Invalid cell reference: " ++ refText ++ ". " ++ message
    details := [.ref ref, .reason reason] }

/-- A division by zero. -/
def division : Report := plain .division "Division by zero in formula"

/-- An operator that has no meaning, with the text that shows it. -/
def ofOperator (operator : Datum) (shown : String) : Report :=
  { kind := .operator
    message := "Unsupported operator: " ++ shown
    details := [.operator operator] }

end Report

end SheetFormula.Fault
