import SheetFormula.Event.Basic
import SheetFormula.Formula.Evaluation
import SheetFormula.Formula.Parser
import SheetFormula.Grid.Basic

/-!
# Computations

From the text of a formula to its value, with notes of what happened: the references that
were resolved, the formula that was parsed, and the events for the log. The notes change
nothing of the outcome.
-/

namespace SheetFormula

/-- A **note** of a computation. -/
inductive Note
  | resolved (r : Resolution)
  /-- A number of tokens was read as the formula with the given text. -/
  | parsed (count : Nat) (text : String)
  | event (e : Event)

namespace Note

/-- The event that a note is. -/
def event? : Note → Option Event
  | .event e => some e
  | _ => none

/-- The name of the channel on which a note is shown to a developer, and its text there.
Events are not shown. -/
def debugLine? : Note → Option (String × String)
  | .resolved r =>
      some ("cellcalc.formulas.cellref",
        "resolved " ++ r.ref ++ " -> " ++ Decimal.plainText r.value)
  | .parsed count text =>
      some ("cellcalc.formulas.parser", "parsed " ++ toString count ++ " tokens -> " ++ text)
  | .event _ => none

end Note

/-- A **computation** with its notes. -/
abbrev Computation (α : Type) : Type := Trace Note Failure α

namespace Computation

open Text

/-- The formula that a list of tokens writes, with its cell references resolved. -/
def parse (grid : Option Grid) (ts : List Token) : Computation (Formula Float) := do
  let f ← (Reading.expression (resolve grid) ts).mapNotes Note.resolved
  Trace.note (.parsed ts.length f.text)
  pure f

/-- The formula that a text writes. -/
def read (grid : Option Grid) (text : String) : Computation (Formula Float) :=
  match tokenize text with
  | .ok ts => parse grid ts
  | .error site => refuse (.unreadable site)

/-- The stages of a computation, as events name them. -/
inductive Stage
  | parse
  | evaluate

/-- The name of a stage. -/
def Stage.name : Stage → String
  | .parse => "parse"
  | .evaluate => "evaluate"

/-- The event that tells of a fault in a formula. -/
def failedEvent (text : String) (stage : Stage) (f : Fault) : Event where
  level := .error
  kind := .failed
  message := f.message
  context := [
    ("formula", .text text),
    ("stage", .text stage.name),
    ("error_type", .text f.kind.name)]
  code := some f.kind.code

/-- The event that tells of a formula that was parsed. -/
def parsedEvent (text : String) (f : Formula Float) : Event where
  level := .info
  kind := .parsed
  message := "Parsed formula " ++ quoted text
  context := [("formula", .text text), ("tree", .text f.text)]
  code := none

/-- The event that tells of a value. A value that is infinite or not a number is given as
text, with a warning. -/
def evaluatedEvent (text : String) (elapsed : Json) (value : Float) : Event :=
  if Decimal.isFinite value then
    { level := .info
      kind := .evaluated
      message := "Evaluated formula " ++ quoted text
      context := [("formula", .text text), ("result", .real value), ("duration_ms", elapsed)]
      code := none }
  else
    { level := .warning
      kind := .evaluated
      message := "Formula " ++ quoted text ++ " evaluated to a non-finite result"
      context := [
        ("formula", .text text),
        ("result", .text (Decimal.plainText value)),
        ("duration_ms", elapsed)]
      code := none }

/-- A computation that leaves an event when it ends with a fault in the formula. -/
def reporting {α : Type} (text : String) (stage : Stage) (c : Computation α) : Computation α :=
  tryCatch c fun e => do
    match e with
    | .fault f => Trace.note (.event (failedEvent text stage f))
    | _ => pure ()
    throw e

/-- The formula that a text writes, with an event that tells of it or of the fault in it. -/
def compile (grid : Option Grid) (text : String) : Computation (Formula Float) := do
  let f ← reporting text .parse (read grid text)
  Trace.note (.event (parsedEvent text f))
  pure f

/-- The **value of a formula text**, with the events that tell of each step. The time that
the computation takes is `elapsed`. -/
def compute (grid : Option Grid) (elapsed : Json) (text : String) : Computation Float := do
  let f ← compile grid text
  let value ← reporting text .evaluate (Trace.ofExcept f.evaluate)
  Trace.note (.event (evaluatedEvent text elapsed value))
  pure value

/-- The events of a computation, in the order in which they happened. -/
def events {α : Type} (c : Computation α) : List Event := c.notes.filterMap Note.event?

end Computation

end SheetFormula
