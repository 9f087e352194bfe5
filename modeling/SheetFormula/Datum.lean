import SheetFormula.Json.Basic
import SheetFormula.Number
import SheetFormula.Text.Quoted

/-!
# Data of Cells and Settings

The values that a cell or a setting can hold. Beside those of the log there are dates,
moments, bytes, sets and tuples, and a record may have keys of any kind.

A value has two texts. `Datum.text?` is for reading: a text stands for itself. `Datum.shown?`
shows what kind of value it is: a text is put between quotes. Both are none when the value
holds an integer beyond the digit limit. Texts may be loose; a text with halves of characters
stands for no text of characters, but it can be shown.
-/

namespace SheetFormula

open SheetFormula.Text SheetFormula.Decimal

/-- A **calendar date**. -/
structure Date where
  year : Nat
  month : Nat
  day : Nat
  deriving DecidableEq

/-- A **moment**: a date and a time of day, with the distance of its clock from universal
time in seconds when that is known. -/
structure Moment where
  date : Date
  hour : Nat
  minute : Nat
  second : Nat
  microsecond : Nat
  offset : Option Int
  deriving DecidableEq

/-- A value of a **cell or setting**. -/
inductive Datum
  | null
  | bool (b : Bool)
  | whole (i : Int)
  | real (x : Float)
  | text (s : LooseText)
  | date (d : Date)
  | moment (m : Moment)
  | bytes (bs : List UInt8)
  | list (items : List Datum)
  | tuple (items : List Datum)
  | set (items : List Datum)
  | record (fields : List (Datum × Datum))
  /-- A list or record inside itself. -/
  | again (isRecord : Bool)
  deriving Inhabited

namespace Datum

mutual

/-- A value of the log as a value of a cell. -/
def ofLoose : Json LooseText → Datum
  | .null => .null
  | .bool b => .bool b
  | .whole i => .whole i
  | .real x => .real x
  | .text s => .text s
  | .list items => .list (ofLooseList items)
  | .record fields => .record (ofLooseFields fields)

def ofLooseList : List (Json LooseText) → List Datum
  | [] => []
  | j :: r => ofLoose j :: ofLooseList r

def ofLooseFields : List (LooseText × Json LooseText) → List (Datum × Datum)
  | [] => []
  | (name, j) :: r => (.text name, ofLoose j) :: ofLooseFields r

end

/-- A value with texts of characters as a value of a cell. -/
def ofJson (j : Json) : Datum := ofLoose j.loose

/-- Null is null in a cell as well. -/
@[simp] theorem ofJson_null : ofJson .null = .null := rfl

/-- A number in decimal with zeros before it up to `width` digits. -/
def padded (width n : Nat) : String :=
  let ds := Nat.toDigits 10 n
  String.ofList (List.replicate (width - ds.length) '0' ++ ds)

/-- The text of a date. -/
def dateText (d : Date) : String :=
  padded 4 d.year ++ "-" ++ padded 2 d.month ++ "-" ++ padded 2 d.day

/-- The distance of a clock from universal time: its sign, hours and minutes, and the
seconds if there are some. -/
def offsetText (seconds : Int) : String :=
  let n := seconds.natAbs
  (if seconds < 0 then "-" else "+") ++ padded 2 (n / 3600) ++ ":" ++ padded 2 (n / 60 % 60) ++
    (if n % 60 = 0 then "" else ":" ++ padded 2 (n % 60))

/-- The text of a moment. -/
def momentText (m : Moment) : String :=
  dateText m.date ++ " " ++ padded 2 m.hour ++ ":" ++ padded 2 m.minute ++ ":" ++
    padded 2 m.second ++
    (if m.microsecond = 0 then "" else "." ++ padded 6 m.microsecond) ++
    (match m.offset with
      | none => ""
      | some seconds => offsetText seconds)

/-- Texts joined by a comma and a space. -/
def commas (parts : List String) : String := ", ".intercalate parts

/-- A natural number in decimal. -/
def natText (n : Nat) : String := intText n

/-- A date as it is shown. -/
def dateShown (d : Date) : String :=
  "datetime.date(" ++ commas [natText d.year, natText d.month, natText d.day] ++ ")"

/-- A length of time as it is shown: days, which may be negative, and seconds of a day. -/
def durationShown (seconds : Int) : String :=
  let days := seconds.fdiv 86400
  let rest := seconds.fmod 86400
  let parts := (if days = 0 then [] else ["days=" ++ intText days]) ++
    (if rest = 0 then [] else ["seconds=" ++ intText rest])
  "datetime.timedelta(" ++ (if parts.isEmpty then "0" else commas parts) ++ ")"

/-- The distance of a clock from universal time as it is shown. -/
def offsetShown (seconds : Int) : String :=
  if seconds = 0 then "datetime.timezone.utc"
  else "datetime.timezone(" ++ durationShown seconds ++ ")"

/-- A moment as it is shown: the seconds are left out when they are zero, and so are the
microseconds. -/
def momentShown (m : Moment) : String :=
  let tail :=
    if m.microsecond ≠ 0 then [m.second, m.microsecond]
    else if m.second ≠ 0 then [m.second] else []
  let parts := ([m.date.year, m.date.month, m.date.day, m.hour, m.minute] ++ tail).map natText
  let zone := match m.offset with
    | none => []
    | some seconds => ["tzinfo=" ++ offsetShown seconds]
  "datetime.datetime(" ++ commas (parts ++ zone) ++ ")"

/-- Bytes between quotes. -/
def bytesShown (bs : List UInt8) : String :=
  "b" ++ quotedBy (fun c => 0x20 ≤ c.toNat && c.toNat < 0x7f)
    (String.ofList (bs.map fun b => Char.ofNat b.toNat))

/-- Parts between round brackets; a single one is followed by a comma. -/
def tupleOf : List String → String
  | [part] => "(" ++ part ++ ",)"
  | parts => "(" ++ commas parts ++ ")"

mutual

/-- The value **as it is shown**, with texts between quotes. -/
def shown? : Datum → Option String
  | .null => some "None"
  | .bool b => some (if b then "True" else "False")
  | .whole i => (Number.whole i).text?
  | .real x => some (plainText x)
  | .text s => some (quotedLoose s)
  | .date d => some (dateShown d)
  | .moment m => some (momentShown m)
  | .bytes bs => some (bytesShown bs)
  | .list items => (shownList? items).map fun parts => "[" ++ commas parts ++ "]"
  | .tuple items => (shownList? items).map fun parts => tupleOf parts
  | .set items =>
      if items.isEmpty then some "set()"
      else (shownList? items).map fun parts => "\x7b" ++ commas parts ++ "\x7d"
  | .record fields => (shownFields? fields).map fun parts => "\x7b" ++ commas parts ++ "\x7d"
  | .again isRecord => some (if isRecord then "\x7b...\x7d" else "[...]")

def shownList? : List Datum → Option (List String)
  | [] => some []
  | d :: r => do
      let s ← shown? d
      let parts ← shownList? r
      return s :: parts

def shownFields? : List (Datum × Datum) → Option (List String)
  | [] => some []
  | (k, v) :: r => do
      let key ← shown? k
      let value ← shown? v
      let parts ← shownFields? r
      return (key ++ ": " ++ value) :: parts

end

/-- The **text** of a value: a text of characters, a date or a moment stands for itself. -/
def text? : Datum → Option String
  | .text s => s.string?
  | .date d => some (dateText d)
  | .moment m => some (momentText m)
  | d => d.shown?

/-- Whether the value counts as true: null, zero and what is empty do not. -/
def truthy : Datum → Bool
  | .null => false
  | .bool b => b
  | .whole i => i != 0
  | .real x => x != 0
  | .text s => !s.isEmpty
  | .date _ | .moment _ => true
  | .bytes bs => !bs.isEmpty
  | .list items | .tuple items | .set items => !items.isEmpty
  | .record fields => !fields.isEmpty
  | .again _ => true

/-- The number that a value stands for, where truth values count as zero and one. -/
def number? : Datum → Option Number
  | .bool b => some (.whole (if b then 1 else 0))
  | .whole i => some (.whole i)
  | .real x => some (.real x)
  | _ => none

/-- The number of days from the first day of the year one, counted in years that start with
March, so that a leap day ends its year. -/
def dayNumber (d : Date) : Int :=
  let year : Int := if d.month ≤ 2 then (d.year : Int) - 1 else d.year
  let month := (d.month + 9) % 12
  365 * year + year.fdiv 4 - year.fdiv 100 + year.fdiv 400 + ((153 * month + 2) / 5 : Nat) + d.day

/-- The microseconds from a fixed instant to a moment, by its own clock when the distance of
that clock from universal time is unknown. -/
def instant (m : Moment) : Int :=
  let seconds := dayNumber m.date * 86400 + (m.hour * 3600 + m.minute * 60 + m.second : Nat)
  (seconds - m.offset.getD 0) * 1000000 + m.microsecond

/-- Whether two values are the same key: numbers by their value, and moments by the instant
they name, if the clocks of both or of neither are known. -/
def sameKey : Datum → Datum → Bool
  | .null, .null => true
  | .text a, .text b => a == b
  | .date a, .date b => a == b
  | .moment a, .moment b => instant a == instant b && a.offset.isSome == b.offset.isSome
  | .bytes a, .bytes b => a == b
  | .tuple a, .tuple b => sameKeys a b
  | a, b =>
      match a.number?, b.number? with
      | some m, some n => m.same n
      | _, _ => false
where
  sameKeys : List Datum → List Datum → Bool
    | [], [] => true
    | a :: r, b :: s => sameKey a b && sameKeys r s
    | _, _ => false

/-- Fields with one more: a new key goes to the end, a known one keeps its place and takes
the new value. -/
def put (key value : Datum) : List (Datum × Datum) → List (Datum × Datum)
  | [] => [(key, value)]
  | (k, v) :: r => if k.sameKey key then (k, value) :: r else (k, v) :: put key value r

/-- The number of places in a set with so many members: a power of two, at least eight, and
more than twice the number of members when there are more than four. -/
def places (count : Nat) : Nat := if count ≤ 4 then 8 else Nat.pow 2 ((2 * count).log2 + 1)

/-- The whole number that a value is, where truth values count as zero and one. -/
def whole? (d : Datum) : Option Int :=
  match d.number? with
  | some (.whole i) => some i
  | _ => none

/-- The **set** of the given members. If all of them are whole numbers they are put in the
order of their remainders by the number of places; else they keep their order. -/
def setOf (members : List Datum) : Datum :=
  match members.mapM whole? with
  | none => .set members
  | some ns =>
      let rank (i : Int) : Int := i.emod (places members.length)
      .set (((ns.zip members).mergeSort fun a b => rank a.1 ≤ rank b.1).map (·.2))

/-- The value of a field that is named by a text. -/
def lookup (name : String) (fields : List (Datum × Datum)) : Option Datum :=
  (fields.find? (fun f => f.1.sameKey (.text name))).map (·.2)

end Datum

end SheetFormula
