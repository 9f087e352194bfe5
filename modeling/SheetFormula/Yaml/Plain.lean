import SheetFormula.Decimal.Read
import SheetFormula.Text.Lowercase
import SheetFormula.Yaml.Moment

/-!
# What Scalars Write

A plain scalar without a tag stands for the kind of value that its form shows: a truth
value, an integer in one of several bases, a double, a date or moment, nothing at all, or
else a text. `Tag.ofPlain` finds the kind, and `Fault`s arise only where a tag asks for a
kind whose form the text does not have.

Integers and doubles may be written in parts of sixty, with colons between the parts.
-/

namespace SheetFormula.Yaml

open Text Decimal

/-! ### Forms -/

/-- A text without the line feed at its end, if there is one. -/
def dropLineFeed (cs : List Char) : List Char :=
  if cs.getLast? = some '\n' then cs.dropLast else cs

/-- A text without its sign. -/
def unsigned (cs : List Char) : List Char := (splitSign cs).2

/-- Whether there is a character, and all of them are in the class. -/
def isRun (p : Char → Bool) (cs : List Char) : Bool := !cs.isEmpty && cs.all p

/-- Whether the character is in the class or an underscore. -/
def orUnderscore (p : Char → Bool) (c : Char) : Bool := p c || c == '_'

/-- Whether the text is digits and underscores that begin with a digit in the class. -/
def isDigits (first : Char → Bool) : List Char → Bool
  | [] => false
  | c :: r => first c && r.all (orUnderscore isDigit)

/-- The parts of a text between colons. -/
def colonParts (cs : List Char) : List (List Char) :=
  ((String.ofList cs).splitOn ":").map String.toList

/-- Whether the text is a number below sixty in one or two digits. -/
def isSixtieth : List Char → Bool
  | [a] => isDigit a
  | [a, b] => '0' ≤ a && a ≤ '5' && isDigit b
  | _ => false

/-- The words for truth values. -/
def truthWords : List (String × Bool) :=
  [("yes", true), ("no", false), ("true", true), ("false", false), ("on", true), ("off", false)]

/-- A word in small letters, with a capital at its beginning, and in capitals. -/
def spellings (word : String) : List String := [word, word.capitalize, word.map Char.toUpper]

/-- Whether the text is one of the spellings of a word. -/
def isSpelled (word : String) (cs : List Char) : Bool :=
  (spellings word).contains (String.ofList cs)

/-- Whether the text has the form of an integer. -/
def isWholeForm (cs : List Char) : Bool :=
  match unsigned cs with
  | '0' :: 'b' :: r => isRun (orUnderscore fun c => c == '0' || c == '1') r
  | '0' :: 'x' :: r => isRun (orUnderscore fun c => (digitIn? 16 c).isSome) r
  | ['0'] => true
  | '0' :: r => isRun (orUnderscore fun c => '0' ≤ c && c ≤ '7') r
  | ds =>
      match colonParts ds with
      | [] => false
      | whole :: parts =>
          isDigits (fun c => '1' ≤ c && c ≤ '9') whole && parts.all isSixtieth

/-- Whether the text is empty or an exponent with its sign. -/
def isExponentForm : List Char → Bool
  | [] => true
  | e :: s :: ds => (e == 'e' || e == 'E') && (s == '+' || s == '-') && isRun isDigit ds
  | _ => false

/-- Whether the text is digits and underscores with an exponent, if there is one. -/
def isFractionForm (cs : List Char) : Bool :=
  isExponentForm (cs.dropWhile (orUnderscore isDigit))

/-- Whether the text has the form of a double. It has a point in it. -/
def isRealForm (cs : List Char) : Bool :=
  let ds := unsigned cs
  match ds.takeWhile (· ≠ '.'), ds.dropWhile (· ≠ '.') with
  | _, [] => false
  | [], _ :: fraction =>
      isSpelled "inf" fraction ||
        (ds.length == cs.length && (["nan", "NaN", "NAN"].contains (String.ofList fraction) ||
          (isDigits isDigit (fraction.take 1) && isFractionForm fraction)))
  | whole, _ :: fraction =>
      match colonParts whole with
      | [whole] => isDigits isDigit whole && isFractionForm fraction
      | whole :: parts =>
          isDigits isDigit whole && parts.all isSixtieth && fraction.all (orUnderscore isDigit)
      | [] => false

/-- Whether the text has the form of a date or moment. A date alone has two digits for its
month and its day. -/
def isMomentForm (cs : List Char) : Bool :=
  match Stamp.read? cs with
  | some s => s.time.isSome || cs.length == 10
  | none => false

/-- The **kind of a plain scalar** without a tag. -/
def Tag.ofPlain (text : String) : Tag :=
  if text = "" then .null
  else
    let cs := dropLineFeed text.toList
    if cs.isEmpty then .str
    else if truthWords.any fun (word, _) => isSpelled word cs then .bool
    else if isRealForm cs then .float
    else if isWholeForm cs then .int
    else if cs == ['<', '<'] then .merge
    else if cs == ['~'] || isSpelled "null" cs then .null
    else if isMomentForm cs then .moment
    else if cs == ['='] then .value
    else if cs == ['!'] || cs == ['&'] || cs == ['*'] then .other
    else .str

/-! ### Values -/

/-- A truth value of its word. -/
def readTruth (text : String) : Except Fault Bool :=
  match truthWords.lookup (lower text) with
  | some b => .ok b
  | none => .error .notTruth

/-- The integer that a text writes in a base. -/
def readBase (base : Nat) (cs : List Char) : Except Fault Int :=
  let text := String.ofList cs
  match readNumeral base text with
  | .ok n => .ok n
  | .error .malformed => .error (.notWhole base text)
  | .error (.tooLong digits) => .error (.tooLong digits)

/-- The integer without its sign that a text writes: in base two, eight or sixteen when it
begins like that, in parts of sixty when there is a colon, and else in base ten. -/
def readUnsignedWhole : List Char → Except Fault Int
  | ['0'] => .ok 0
  | '0' :: 'b' :: r => readBase 2 r
  | '0' :: 'x' :: r => readBase 16 r
  | '0' :: r => readBase 8 ('0' :: r)
  | [] => .error .empty
  | cs => do
      let parts ← (colonParts cs).mapM (readBase 10)
      return parts.foldl (fun n part => n * 60 + part) 0

/-- The **integer** that a scalar writes. Underscores count for nothing. -/
def readWhole (text : String) : Except Fault Int :=
  let cs := text.toList.filter (· ≠ '_')
  if cs.isEmpty then .error .empty
  else do
    let (negative, ds) := splitSign cs
    let n ← readUnsignedWhole ds
    return if negative then -n else n

/-- The double that a text writes. -/
def readPart (cs : List Char) : Except Fault Float :=
  match Decimal.read? (String.ofList cs) with
  | some x => .ok x
  | none => .error (.notReal (String.ofList cs))

/-- The sum of parts given from the last one on, the first of which counts `unit` and each
other sixty times as much as the one before it. It is added to `sum`. -/
def sumSixtieths (sum : Float) (unit : Int) : List Float → Except Fault Float
  | [] => .ok sum
  | part :: parts =>
      if Decimal.isFinite (ofInt unit) then
        sumSixtieths (sum + part * ofInt unit) (unit * 60) parts
      else .error .tooWide

/-- The characters of a double: in lower case, without underscores. -/
def realChars (text : String) : List Char :=
  (lower (String.ofList (text.toList.filter (· ≠ '_')))).toList

/-- Whether the text is the word for what is not a number. -/
def isNanWord (text : String) : Bool := (splitSign (realChars text)).2 == ".nan".toList

/-- The **double** that a scalar writes. Underscores count for nothing. -/
def readReal (text : String) : Except Fault Float :=
  let cs := realChars text
  if cs.isEmpty then .error .empty
  else do
    let (negative, ds) := splitSign cs
    if isNanWord text then return 0.0 / 0.0
    else
      let x ←
        if ds = ".inf".toList then Except.ok (1.0 / 0.0)
        else match colonParts ds with
          | [_] => readPart ds
          | parts => do sumSixtieths 0 1 (← parts.mapM readPart).reverse
      return if negative then -x else x

end SheetFormula.Yaml
