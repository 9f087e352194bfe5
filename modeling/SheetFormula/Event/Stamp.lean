import SheetFormula.Datum

/-!
# Times of Events

The text of the time at which an event is written: the date and the time of day in universal
time with microseconds.
-/

namespace SheetFormula.Event

/-- The date that lies a number of days after the first day of the year 1970. Years are
counted from March on, so that a leap day is the last day of its year, and in cycles of four
hundred years. -/
def dateAfter (days : Nat) : Date :=
  let n := days + 719468
  let cycle := n / 146097
  let day := n % 146097
  let year := (day - day / 1460 + day / 36524 - day / 146096) / 365
  let rest := day - (365 * year + year / 4 - year / 100)
  let month := (5 * rest + 2) / 153
  ⟨cycle * 400 + year + month / 10, (month + 2) % 12 + 1, rest - (153 * month + 2) / 5 + 1⟩

/-- The **stamp** of a time in microseconds after the beginning of the year 1970. -/
def stampOf (microseconds : Nat) : String :=
  let seconds := microseconds / 1000000
  let day := seconds % 86400
  Datum.dateText (dateAfter (seconds / 86400)) ++ "T" ++ Datum.padded 2 (day / 3600) ++ ":" ++
    Datum.padded 2 (day / 60 % 60) ++ ":" ++ Datum.padded 2 (day % 60) ++ "." ++
    Datum.padded 6 (microseconds % 1000000) ++ "Z"

example : dateAfter 0 = ⟨1970, 1, 1⟩ ∧ dateAfter 11016 = ⟨2000, 2, 29⟩ ∧
    dateAfter 20088 = ⟨2024, 12, 31⟩ := by decide

end SheetFormula.Event
