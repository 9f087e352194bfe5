import SheetFormula.Decimal.Read
import SheetFormula.Json.Basic

/-!
# Reading JSON

The value that a text writes. Beside the standard the names of infinity and of not-a-number
are read. A name that occurs more than once in a record keeps its first place and takes its
last value. An integer beyond the digit limit is a fault of its own. A half of a character
that is written without the other half is kept as it is, so the texts that are read are loose.
-/

namespace SheetFormula.Json

open Text Decimal

/-- Why a text writes no value. -/
inductive Fault
  | malformed
  | tooLong (digits : Nat)
  deriving DecidableEq, Repr

/-- The characters between the parts of a value. -/
def isSpace (c : Char) : Bool := c == ' ' || c == '\t' || c == '\n' || c == '\r'

/-- A text without the space at its beginning. -/
def skip (cs : List Char) : List Char := cs.dropWhile isSpace

/-- The code unit that four hexadecimal digits write. -/
def unit? (a b c d : Char) : Option Nat := do
  let w ← digitIn? 16 a
  let x ← digitIn? 16 b
  let y ← digitIn? 16 c
  let z ← digitIn? 16 d
  return ((w * 16 + x) * 16 + y) * 16 + z

/-- The code unit of a character that stands for another one behind a backslash. -/
def escape? (c : Char) : Option Nat :=
  if c = '"' ∨ c = '\\' ∨ c = '/' then some c.toNat
  else if c = 'b' then some 8
  else if c = 'f' then some 12
  else if c = 'n' then some 10
  else if c = 'r' then some 13
  else if c = 't' then some 9
  else none

/-- The code points and escaped code units of a text up to its closing quote, and what is
left after that. -/
def units? : List Char → Option (List Nat × List Char)
  | [] => none
  | '"' :: r => some ([], r)
  | '\\' :: 'u' :: a :: b :: c :: d :: r =>
      match unit? a b c d, units? r with
      | some n, some (ns, rest) => some (n :: ns, rest)
      | _, _ => none
  | '\\' :: e :: r =>
      match escape? e, units? r with
      | some n, some (ns, rest) => some (n :: ns, rest)
      | _, _ => none
  | c :: r =>
      if c = '\\' ∨ c.toNat < 0x20 then none
      else match units? r with
        | some (ns, rest) => some (c.toNat :: ns, rest)
        | none => none

/-- The letters of code units: two halves of a character are joined, and a half alone is kept. -/
def joinUnits : List Nat → List Letter
  | [] => []
  | h :: l :: r =>
      if 0xd800 ≤ h ∧ h < 0xdc00 ∧ 0xdc00 ≤ l ∧ l < 0xe000 then
        .whole (Char.ofNat (0x10000 + (h - 0xd800) * 0x400 + (l - 0xdc00))) :: joinUnits r
      else .ofNat h :: joinUnits (l :: r)
  | [h] => [.ofNat h]

/-- A text up to its closing quote. -/
def string? (cs : List Char) : Option (LooseText × List Char) :=
  (units? cs).map fun (ns, rest) => (.ofLetters (joinUnits ns), rest)

/-- The digits of an integer part: a single zero, or digits that do not begin with one. -/
def wholeDigits : List Char → List Char × List Char
  | '0' :: r => (['0'], r)
  | cs => (cs.takeWhile isDigit, cs.dropWhile isDigit)

/-- A point with digits after it, if it is there. -/
def fractionPart : List Char → List Char × List Char
  | '.' :: d :: r =>
      if isDigit d then ('.' :: d :: r.takeWhile isDigit, r.dropWhile isDigit)
      else ([], '.' :: d :: r)
  | cs => ([], cs)

/-- An exponent with its digits, if it is there. -/
def exponentPart (cs : List Char) : List Char × List Char :=
  match cs with
  | e :: r =>
      if e = 'e' ∨ e = 'E' then
        let (sign, ds) := match r with
          | '+' :: r' => (['+'], r')
          | '-' :: r' => (['-'], r')
          | r' => ([], r')
        let exponent := ds.takeWhile isDigit
        if exponent.isEmpty then ([], cs)
        else (e :: sign ++ exponent, ds.dropWhile isDigit)
      else ([], cs)
  | [] => ([], [])

/-- A number: an integer when it has neither a point nor an exponent, else a double. The
limit is the greatest number of digits of an integer, if there is one. -/
def number (limit : Option Nat) (cs : List Char) : Except Fault (Json LooseText × List Char) :=
  let (negative, unsigned) := match cs with
    | '-' :: r => (true, r)
    | r => (false, r)
  let (integer, r₁) := wholeDigits unsigned
  if integer.isEmpty then .error .malformed
  else
    let (fraction, r₂) := fractionPart r₁
    let (exponent, rest) := exponentPart r₂
    if fraction.isEmpty && exponent.isEmpty then
      if limit.any (· < integer.length) then .error (.tooLong integer.length)
      else
        let n : Int := natOfDigits integer
        .ok (.whole (if negative then -n else n), rest)
    else match readUnsigned? negative (integer ++ fraction ++ exponent) with
      | some x => .ok (.real x, rest)
      | none => .error .malformed

/-- The text after a word that it begins with. -/
def after? (word : String) (cs : List Char) : Option (List Char) :=
  if word.toList.isPrefixOf cs then some (cs.drop word.length) else none

/-- The values that are written by names. -/
def names : List (String × Json LooseText) :=
  [("null", .null), ("true", .bool true), ("false", .bool false), ("NaN", .real (0.0 / 0.0)),
    ("Infinity", .real (1.0 / 0.0)), ("-Infinity", .real (-1.0 / 0.0))]

/-- A value that is written by a name. -/
def named? (cs : List Char) : Option (Json LooseText × List Char) :=
  names.findSome? fun (word, v) => (after? word cs).map fun rest => (v, rest)

mutual

/-- The value at the beginning of a text, and what is left after it. The first argument
bounds the depth and the number of parts; the length of the text is always enough. -/
def value (limit : Option Nat) : Nat → List Char → Except Fault (Json LooseText × List Char)
  | 0, _ => .error .malformed
  | fuel + 1, cs =>
      match cs with
      | '"' :: r =>
          match string? r with
          | some (s, rest) => .ok (.text s, rest)
          | none => .error .malformed
      | '[' :: r =>
          match skip r with
          | ']' :: rest => .ok (.list [], rest)
          | r' => do
              let (items, rest) ← elements limit fuel r'
              return (.list items, rest)
      | '\x7b' :: r =>
          match skip r with
          | '\x7d' :: rest => .ok (.record [], rest)
          | r' => do
              let (fields, rest) ← members limit fuel [] r'
              return (.record fields, rest)
      | cs =>
          match named? cs with
          | some result => .ok result
          | none => number limit cs

/-- The items of a list up to its closing bracket. -/
def elements (limit : Option Nat) :
    Nat → List Char → Except Fault (List (Json LooseText) × List Char)
  | 0, _ => .error .malformed
  | fuel + 1, cs => do
      let (item, r) ← value limit fuel cs
      match skip r with
      | ',' :: r' =>
          let (items, rest) ← elements limit fuel (skip r')
          return (item :: items, rest)
      | ']' :: rest => return ([item], rest)
      | _ => .error .malformed

/-- The fields of a record up to its closing brace, after those that are known already. -/
def members (limit : Option Nat) : Nat → List (LooseText × Json LooseText) → List Char →
    Except Fault (List (LooseText × Json LooseText) × List Char)
  | 0, _, _ => .error .malformed
  | fuel + 1, known, cs =>
      match cs with
      | '"' :: r =>
          match string? r with
          | none => .error .malformed
          | some (name, r₁) =>
              match skip r₁ with
              | ':' :: r₂ => do
                  let (v, r₃) ← value limit fuel (skip r₂)
                  let fields := put name v known
                  match skip r₃ with
                  | ',' :: r₄ => members limit fuel fields (skip r₄)
                  | '\x7d' :: rest => return (fields, rest)
                  | _ => .error .malformed
              | _ => .error .malformed
      | _ => .error .malformed

end

/-- The value that a whole text writes, with a limit on the digits of integers. -/
def parseWith (limit : Option Nat) (text : String) : Except Fault (Json LooseText) :=
  let cs := skip text.toList
  match value limit (cs.length + 1) cs with
  | .error e => .error e
  | .ok (v, rest) => if (skip rest).isEmpty then .ok v else .error .malformed

/-- The **value that a text writes**. -/
def parse (text : String) : Except Fault (Json LooseText) := parseWith (some digitLimit) text

end SheetFormula.Json
