import SheetFormula.Datum
import SheetFormula.Yaml.Basic

/-!
# Dates and Moments

A stamp is a date as it is written, with a time of day and the zone of its clock if they are
given. `Stamp.datum` is the date or moment that it stands for, if that exists.
-/

namespace SheetFormula.Yaml

open Text Decimal

/-- The zone of a clock as it is written. -/
inductive Zone
  /-- Universal time. -/
  | universal
  /-- The distance from universal time. -/
  | distance (isWest : Bool) (hours minutes : Nat)
  deriving DecidableEq, Repr

/-- A time of day as it is written. -/
structure Clock where
  hour : Nat
  minute : Nat
  second : Nat
  /-- The digits behind the point of the seconds. -/
  fraction : List Char
  zone : Option Zone
  deriving DecidableEq, Repr

/-- A date as it is written, with a time of day if it is given. -/
structure Stamp where
  year : Nat
  month : Nat
  day : Nat
  time : Option Clock
  deriving DecidableEq, Repr

/-- The number in exactly `n` digits, and what is left after it. -/
def digits? (n : Nat) (cs : List Char) : Option (Nat × List Char) :=
  let ds := cs.take n
  if ds.length = n ∧ ds.all isDigit then some (natOfDigits ds, cs.drop n) else none

/-- The number in one or two digits, and what is left after it. -/
def digitOrTwo? (cs : List Char) : Option (Nat × List Char) := digits? 2 cs <|> digits? 1 cs

/-- What is left after a character. -/
def after? (c : Char) : List Char → Option (List Char)
  | d :: r => if d = c then some r else none
  | [] => none

/-- The zone that the whole text writes. -/
def Zone.read? : List Char → Option Zone
  | ['Z'] => some .universal
  | s :: r =>
      if s = '+' ∨ s = '-' then do
        let (hours, r) ← digitOrTwo? r
        match r with
        | [] => some (.distance (s = '-') hours 0)
        | r => do
            let (minutes, r) ← digits? 2 (← after? ':' r)
            if r.isEmpty then some (.distance (s = '-') hours minutes) else none
      else none
  | [] => none

/-- The time of day that the whole text writes. -/
def Clock.read? (cs : List Char) : Option Clock := do
  let (hour, r) ← digitOrTwo? cs
  let (minute, r) ← digits? 2 (← after? ':' r)
  let (second, r) ← digits? 2 (← after? ':' r)
  let (fraction, r) := match r with
    | '.' :: r => (r.takeWhile isDigit, r.dropWhile isDigit)
    | r => ([], r)
  if r.isEmpty then return ⟨hour, minute, second, fraction, none⟩
  else
    let zone ← Zone.read? (r.dropWhile isSpace)
    return ⟨hour, minute, second, fraction, some zone⟩

/-- The text of a time of day behind a date: a letter or white space comes before it. -/
def timeText? : List Char → Option (List Char)
  | c :: r =>
      if c = 'T' ∨ c = 't' then some r
      else if isSpace c then some (r.dropWhile isSpace)
      else none
  | [] => none

/-- The stamp that the whole text writes. -/
def Stamp.read? (cs : List Char) : Option Stamp := do
  let (year, r) ← digits? 4 cs
  let (month, r) ← digitOrTwo? (← after? '-' r)
  let (day, r) ← digitOrTwo? (← after? '-' r)
  if r.isEmpty then return ⟨year, month, day, none⟩
  else
    let clock ← Clock.read? (← timeText? r)
    return ⟨year, month, day, some clock⟩

/-- Whether the year has a day more than others. -/
def isLeap (year : Nat) : Bool := year % 4 == 0 && (year % 100 != 0 || year % 400 == 0)

/-- The number of days of a month. -/
def daysIn (year month : Nat) : Nat :=
  if month = 2 then (if isLeap year then 29 else 28)
  else if [4, 6, 9, 11].contains month then 30
  else 31

/-- The date with the numbers, if it exists. -/
def dateOf (year month day : Nat) : Except MomentFault Date :=
  if year = 0 then .error (.year year)
  else if month < 1 ∨ 12 < month then .error .month
  else if day < 1 ∨ daysIn year month < day then .error .day
  else .ok ⟨year, month, day⟩

/-- The distance of a clock from universal time in seconds. It is less than a day. -/
def Zone.offset : Zone → Except MomentFault Int
  | .universal => .ok 0
  | .distance isWest hours minutes =>
      let seconds : Nat := (hours * 60 + minutes) * 60
      let offset : Int := if isWest then -seconds else seconds
      if 86400 ≤ seconds then .error (.offset (Datum.durationShown offset)) else .ok offset

/-- The microseconds that the digits behind the point of the seconds write. Digits beyond the
sixth one count for nothing. -/
def microseconds (fraction : List Char) : Nat :=
  natOfDigits ((fraction ++ List.replicate 6 '0').take 6)

/-- The moment of a date and a time of day, if it exists. -/
def momentOf (s : Stamp) (t : Clock) : Except MomentFault Moment := do
  let offset ← match t.zone with
    | none => .ok none
    | some zone => zone.offset.map some
  let date ← dateOf s.year s.month s.day
  if 23 < t.hour then .error .hour
  else if 59 < t.minute then .error .minute
  else if 59 < t.second then .error .second
  else .ok ⟨date, t.hour, t.minute, t.second, microseconds t.fraction, offset⟩

/-- The **date or moment** that a stamp stands for, if it exists. -/
def Stamp.datum (s : Stamp) : Except MomentFault Datum :=
  match s.time with
  | none => (dateOf s.year s.month s.day).map .date
  | some t => (momentOf s t).map .moment

end SheetFormula.Yaml
