import SheetFormula.Json.Printer

/-!
# Events

What the log records: that a formula was parsed, evaluated or failed, with a level, a
message, a context of named values, and for a failure the code of its kind. The texts in a
context are cut to a bounded length before the event is written.
-/

namespace SheetFormula

/-- The **levels** of events. -/
inductive Event.Level
  | info
  | warning
  | error
  deriving DecidableEq, Repr

/-- What an event tells. -/
inductive Event.Kind
  | parsed
  | evaluated
  | failed
  deriving DecidableEq, Repr

/-- An **event** before it is written. -/
structure Event where
  level : Event.Level
  kind : Event.Kind
  message : String
  context : List (String × Json)
  code : Option String

namespace Event

/-- The name of a level. -/
def Level.name : Level → String
  | .info => "info"
  | .warning => "warning"
  | .error => "error"

/-- The level with the given name. -/
def Level.ofName? (name : String) : Option Level :=
  [Level.info, .warning, .error].find? (·.name == name)

/-- The name of a kind of event. -/
def Kind.name : Kind → String
  | .parsed => "formula_parsed"
  | .evaluated => "formula_evaluated"
  | .failed => "formula_failed"

/-- The kind of event with the given name. -/
def Kind.ofName? (name : String) : Option Kind :=
  [Kind.parsed, .evaluated, .failed].find? (·.name == name)

/-- Every level is found by its name. -/
theorem Level.ofName?_name (l : Level) : ofName? l.name = some l := by
  cases l <;> decide

/-- Every kind of event is found by its name. -/
theorem Kind.ofName?_name (k : Kind) : ofName? k.name = some k := by
  cases k <;> decide

/-- The greatest number of characters of a text in a context. -/
def textLimit : Nat := 256

/-- What marks a text that was cut. -/
def cutMark : String := "...[truncated]"

/-- A text cut to the limit, with the mark behind it, when it is longer. -/
def cutText (s : String) : String :=
  if textLimit < s.length then String.ofList (s.toList.take textLimit) ++ cutMark else s

mutual

/-- A value of a context with its long texts cut, those in records inside it included. -/
def redactValue : Json → Json
  | .text s => .text (cutText s)
  | .record fields => .record (redact fields)
  | j => j

/-- A **context with its long texts cut**. -/
def redact : List (String × Json) → List (String × Json)
  | [] => []
  | (name, j) :: r => (name, redactValue j) :: redact r

end

mutual

/-- A value in which each double that is infinite or not a number is null. -/
def finite : Json → Json
  | .real x => if Decimal.isFinite x then .real x else .null
  | .list items => .list (finiteList items)
  | .record fields => .record (finiteFields fields)
  | j => j

def finiteList : List Json → List Json
  | [] => []
  | j :: r => finite j :: finiteList r

def finiteFields : List (String × Json) → List (String × Json)
  | [] => []
  | (name, j) :: r => (name, finite j) :: finiteFields r

end

/-- The event as a record, written at the time `stamp`. -/
def toJson (stamp : String) (e : Event) : Json :=
  .record [
    ("schema_version", .whole 1),
    ("ts", .text stamp),
    ("level", .text e.level.name),
    ("event_type", .text e.kind.name),
    ("context", .record (finiteFields (redact e.context))),
    ("message", .text e.message),
    ("error_code", match e.code with
      | some code => .text code
      | none => .null)]

/-- The **log line** of an event without its line end. There is none when the context holds
an integer beyond the digit limit. -/
def line? (stamp : String) (e : Event) : Option String := (e.toJson stamp).sorted.line?

end Event

end SheetFormula
