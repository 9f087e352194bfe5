import SheetFormula.Text.Blank
import SheetFormula.Text.Digit

/-!
# Reading Numerals

The texts that write an integer in a base: white space on both sides, a sign, an optional
mark of the base, and digits, between which single underscores may stand. Reading a
numeral of more than `digitLimit` decimal digits is refused, and so is writing one.
-/

namespace SheetFormula.Decimal

open SheetFormula.Text

/-- The most decimal digits of an integer that are converted between number and text. -/
def digitLimit : Nat := 4300

/-- Whether the decimal text of an integer stays within the digit limit. -/
def writable (i : Int) : Bool := i.natAbs < Nat.pow 10 digitLimit

/-- Why a text is no numeral: it has the wrong form, or it has the stated number of digits
and they are too many. -/
inductive NumeralFault
  | malformed
  | tooLong (digits : Nat)
  deriving DecidableEq, Repr

/-- White space around a number. Among ASCII characters it is narrower than elsewhere: the
four information separators are not in it. -/
def isNumberBlank (c : Char) : Bool :=
  isBlank c && !(28 ≤ c.toNat && c.toNat ≤ 31)

/-- A text as numbers are read: without the white space around it, and with the digits of
all scripts as ASCII digits. -/
def numberChars (s : String) : List Char :=
  asciiDigits (trimBy isNumberBlank s.toList)

/-- The value of a digit or letter in bases up to thirty-six. -/
def digitIn? (base : Nat) (c : Char) : Option Nat :=
  let value? :=
    if '0' ≤ c ∧ c ≤ '9' then some (c.toNat - '0'.toNat)
    else if 'a' ≤ c ∧ c ≤ 'z' then some (c.toNat - 'a'.toNat + 10)
    else if 'A' ≤ c ∧ c ≤ 'Z' then some (c.toNat - 'A'.toNat + 10)
    else none
  value?.filter (· < base)

/-- The digits of a numeral without its underscores, each of which must stand between two
digits. The flag says whether an underscore may come next. -/
def digitsBetween? (isDigit : Char → Bool) : Bool → List Char → Option (List Char)
  | after, [] => if after then some [] else none
  | after, c :: r =>
      if isDigit c then (digitsBetween? isDigit true r).map (c :: ·)
      else if c = '_' ∧ after then digitsBetween? isDigit false r
      else none

/-- A text without its sign, and whether that was a minus. -/
def splitSign : List Char → Bool × List Char
  | '-' :: r => (true, r)
  | '+' :: r => (false, r)
  | r => (false, r)

/-- The digits behind the mark of a base, such as the `0x` of base sixteen. An underscore
may stand between the mark and the digits. -/
def dropBaseMark (base : Nat) (cs : List Char) : List Char :=
  let mark := if base = 2 then 'b' else if base = 8 then 'o' else if base = 16 then 'x' else '0'
  match cs with
  | '0' :: m :: r =>
      if mark ≠ '0' ∧ m.toLower = mark then (match r with | '_' :: r' => r' | _ => r) else cs
  | _ => cs

/-- The integer that a text writes in a base. -/
def readNumeral (base : Nat) (s : String) : Except NumeralFault Int :=
  let (negative, unsigned) := splitSign (numberChars s)
  match digitsBetween? (fun c => (digitIn? base c).isSome) false (dropBaseMark base unsigned) with
  | none => .error .malformed
  | some ds =>
      if base = 10 ∧ digitLimit < ds.length then .error (.tooLong ds.length)
      else
        let n := ds.foldl (fun n c => n * base + (digitIn? base c).getD 0) 0
        .ok (if negative then -n else n)

/-- The decimal text of an integer. -/
def intText (i : Int) : String :=
  String.ofList ((if i < 0 then ['-'] else []) ++ Nat.toDigits 10 i.natAbs)

end SheetFormula.Decimal
