import SheetFormula.Event.Basic
import SheetFormula.Json.Equality
import SheetFormula.Json.Parser
import SheetFormula.Text.Blank

/-!
# The Log

The log of events is a text of lines, each of which holds one record. Reading it skips the
lines that hold no value, and gives the values newest first, filtered by level and kind of
event and cut to a number of them.
-/

namespace SheetFormula

namespace Event

/-- What a reader of the log asks for. A level or kind that does not count as true is not
asked for, and without a limit all events are. -/
structure Filter where
  level : Json := .null
  kind : Json := .null
  limit : Option Int := none

/-- Why a log cannot be read. -/
inductive Log.Fault
  /-- A line holds an integer of so many digits that it is not read. -/
  | tooLong (digits : Nat)
  /-- A filter meets a value that is no record. -/
  | notRecord
  deriving DecidableEq, Repr

namespace Log

/-- The values of the lines of a log, oldest first. Blank lines and lines that hold no value
are skipped. -/
def values : List (List Char) → Except Fault (List (Json LooseText))
  | [] => .ok []
  | l :: r =>
      let line := Text.trimBlanks l
      if line.isEmpty then values r
      else match Json.parse (String.ofList line) with
        | .ok v => (values r).map (v :: ·)
        | .error .malformed => values r
        | .error (.tooLong digits) => .error (.tooLong digits)

/-- The values that have the wanted value in a field, if one is wanted. -/
def having (name : String) (wanted : Json) (vs : List (Json LooseText)) :
    Except Fault (List (Json LooseText)) :=
  if wanted.truthy then
    if vs.all fun v => v.fields?.isSome then
      .ok (vs.filter fun v => ((v.field? (.whole name)).getD .null).same wanted.loose)
    else .error .notRecord
  else .ok vs

/-- The first values up to a limit. A negative limit leaves out that many at the end. -/
def limited (limit : Option Int) (vs : List (Json LooseText)) : List (Json LooseText) :=
  match limit with
  | none => vs
  | some n => if 0 ≤ n then vs.take n.toNat else vs.take (vs.length - n.natAbs)

/-- The **events of a log** that a filter lets through, newest first. -/
def read (filter : Filter) (log : String) : Except Fault (List (Json LooseText)) := do
  let vs ← values (Text.lines log.toList)
  let vs ← having "level" filter.level vs
  let vs ← having "event_type" filter.kind vs
  .ok (limited filter.limit vs.reverse)

/-- A log with a line added at its end. -/
def added (log line : String) : String := log ++ line ++ "\n"

end Log

end Event

end SheetFormula
