import SheetFormula.Yaml.Basic

/-!
# Texts of Scalars

How the characters of a quoted, plain or block scalar write its text. All three are read
character by character, with the white space that has been met and not been used yet kept
as a `Gap`: inside a line it stands for itself, and a line break is folded into a space
unless empty lines follow it.
-/

namespace SheetFormula.Yaml

open Decimal

/-- **White space** inside a scalar. The lists hold the last character first. -/
inductive Gap
  | none
  | spaces (ws : List Char)
  /-- A line break, and the breaks of the empty lines after it. -/
  | folded (first : Char) (more : List Char)
  /-- The breaks of empty lines after a line break that counts for nothing. -/
  | joined (more : List Char)

namespace Gap

/-- A gap with one more space. Spaces at the beginning of a line are dropped. -/
def space (c : Char) : Gap → Gap
  | none => spaces [c]
  | spaces ws => spaces (c :: ws)
  | gap => gap

/-- A gap with one more line break. Spaces at the end of a line are dropped. -/
def lineBreak (c : Char) : Gap → Gap
  | none | spaces _ => folded c []
  | folded first more => folded first (breakText c :: more)
  | joined more => joined (breakText c :: more)

/-- The text of a gap. -/
def text : Gap → List Char
  | none => []
  | spaces ws => ws.reverse
  | folded first more =>
      if breakText first ≠ '\n' then breakText first :: more.reverse
      else if more.isEmpty then [' ']
      else more.reverse
  | joined more => more.reverse

/-- The letters of a gap. -/
def letters (gap : Gap) : List Letter := gap.text.map .whole

end Gap

/-! ### Quoted scalars -/

/-- The characters that stand for others behind a backslash. -/
def escapes : List (Char × Char) :=
  [('0', '\x00'), ('a', '\x07'), ('b', '\x08'), ('t', '\t'), ('\t', '\t'), ('n', '\n'),
    ('v', '\x0b'), ('f', '\x0c'), ('r', '\r'), ('e', '\x1b'), (' ', ' '), ('"', '"'),
    ('\\', '\\'), ('/', '/'), ('N', '\u0085'), ('_', '\u00a0'), ('L', '\u2028'),
    ('P', '\u2029')]

/-- The number that hexadecimal digits write. -/
def hexValue? (cs : List Char) : Option Nat :=
  cs.foldlM (fun n c => (digitIn? 16 c).map (n * 16 + ·)) 0

/-- The letter whose number hexadecimal digits write. It may be a half of a character. -/
def hexLetter (cs : List Char) : Except Fault Letter :=
  match hexValue? cs with
  | none => .error .lexical
  | some n =>
      if 0x80000000 ≤ n then .error .tooWide
      else match Letter.ofNat? n with
        | some l => .ok l
        | none => .error .noCharacter

/-- A result with a text in front. -/
def prepend {α : Type} (cs : List α) : Except Fault (List α × List Char) →
    Except Fault (List α × List Char) :=
  Except.map fun (text, rest) => (cs ++ text, rest)

/-- The text of a scalar between **single quotes**, where two quotes stand for one, and what
is left after the closing quote. -/
def singleQuoted : Gap → List Char → Except Fault (List Char × List Char)
  | _, [] => .error .lexical
  | gap, c :: r =>
      if isSpace c then singleQuoted (gap.space c) r
      else if isBreak c then
        if atMarker r then .error .lexical else singleQuoted (gap.lineBreak c) r
      else if c = '\'' then
        match r with
        | '\'' :: r' => prepend (gap.text ++ ['\'']) (singleQuoted .none r')
        | r => .ok (gap.text, r)
      else prepend (gap.text ++ [c]) (singleQuoted .none r)

/-- The letters of a scalar between **double quotes**, where a backslash gives the character
behind it another meaning, and what is left after the closing quote. -/
def doubleQuoted : Gap → List Char → Except Fault (List Letter × List Char)
  | gap, '\\' :: 'x' :: a :: b :: r => do
      let l ← hexLetter [a, b]
      prepend (gap.letters ++ [l]) (doubleQuoted .none r)
  | gap, '\\' :: 'u' :: a :: b :: c :: d :: r => do
      let l ← hexLetter [a, b, c, d]
      prepend (gap.letters ++ [l]) (doubleQuoted .none r)
  | gap, '\\' :: 'U' :: a :: b :: c :: d :: e :: f :: g :: h :: r => do
      let l ← hexLetter [a, b, c, d, e, f, g, h]
      prepend (gap.letters ++ [l]) (doubleQuoted .none r)
  | gap, '\\' :: e :: r =>
      if isBreak e then
        if atMarker r then .error .lexical
        else prepend gap.letters (doubleQuoted (.joined []) r)
      else match escapes.lookup e with
        | some c => prepend (gap.letters ++ [.whole c]) (doubleQuoted .none r)
        | none => .error .lexical
  | _, [] => .error .lexical
  | gap, c :: r =>
      if isSpace c then doubleQuoted (gap.space c) r
      else if isBreak c then
        if atMarker r then .error .lexical else doubleQuoted (gap.lineBreak c) r
      else if c = '"' then .ok (gap.letters, r)
      else if c = '\\' then .error .lexical
      else prepend (gap.letters ++ [.whole c]) (doubleQuoted .none r)

/-! ### Plain scalars -/

/-- The characters that end a plain scalar inside brackets. -/
def flowMarks : List Char := [',', '?', '[', ']', '\x7b', '\x7d']

/-- The characters before which a colon ends a plain scalar inside brackets. -/
def colonMarks : List Char := [',', '[', ']', '\x7b', '\x7d']

/-- Whether a plain scalar ends before the character, which is followed by the text `r`. A
tab ends it, and so does a colon at the end of a word. -/
def endsPlain (inFlow : Bool) (c : Char) (r : List Char) : Bool :=
  c == '\t' ||
    (c == ':' && (atBlank r || (inFlow && atChar colonMarks.contains r))) ||
    (inFlow && flowMarks.contains c)

/-- A plain scalar as far as it goes. -/
structure Plain where
  text : List Char
  rest : List Char
  /-- Whether a line break came after its last character. -/
  broke : Bool

/-- A plain scalar with a text in front. -/
def Plain.prepend (cs : List Char) (p : Plain) : Plain := { p with text := cs ++ p.text }

/-- The **plain** scalar at the beginning of a text. It goes on in lines that begin in the
column `start` or right of it, inside brackets in all lines. The number is the column of the
next character as long as a line has begun with spaces only. -/
def plain (inFlow : Bool) (start : Nat) : Gap → Nat → List Char → Plain
  | .folded .., _, [] => ⟨[], [], true⟩
  | _, _, [] => ⟨[], [], false⟩
  | gap, column, c :: r =>
      if c = ' ' then plain inFlow start (gap.space c) (column + 1) r
      else if isBreak c then
        if atMarker r then ⟨[], r, true⟩ else plain inFlow start (gap.lineBreak c) 0 r
      else
        let goesOn : Bool := match gap with
          | .none => true
          | .folded .. => c != '#' && (inFlow || start ≤ column)
          | _ => c != '#'
        if goesOn && !endsPlain inFlow c r then
          (plain inFlow start .none 0 r).prepend (gap.text ++ [c])
        else ⟨[], c :: r, gap matches .folded ..⟩

/-! ### Block scalars -/

/-- What becomes of the line breaks at the end of a block scalar. -/
inductive Chomping
  /-- None is kept. -/
  | strip
  /-- One is kept. -/
  | clip
  /-- All are kept. -/
  | keep
  deriving DecidableEq, Repr

/-- The sign for a chomping. -/
def chomping? (c : Char) : Option Chomping :=
  if c = '+' then some .keep else if c = '-' then some .strip else none

/-- The number of columns that a digit asks for. -/
def columns? (c : Char) : Option Nat := if c.isDigit then some (c.toNat - '0'.toNat) else none

/-- The signs behind the mark of a block scalar: a chomping and a number of columns, which
is not zero, in any order. -/
def blockSigns (cs : List Char) : Except Fault (Chomping × Option Nat × List Char) :=
  let found : Chomping × Option Nat × List Char := match cs with
    | c :: r =>
        match chomping? c, columns? c with
        | some chomping, _ =>
            match r with
            | d :: r' => match columns? d with
                | some n => (chomping, some n, r')
                | none => (chomping, none, r)
            | [] => (chomping, none, [])
        | none, some n =>
            match r with
            | d :: r' => ((chomping? d).getD .clip, some n, if (chomping? d).isSome then r' else r)
            | [] => (.clip, some n, [])
        | none, none => (.clip, none, cs)
    | [] => (.clip, none, [])
  if found.2.1 == some 0 || !atGap found.2.2 then .error .lexical else .ok found

/-- What is left after a line on which only spaces and a comment may follow. -/
def restOfLine (cs : List Char) : Except Fault (List Char) :=
  let cs := cs.dropWhile (· == ' ')
  let cs := if atChar (· == '#') cs then cs.dropWhile (!isBreak ·) else cs
  if atLineEnd cs then .ok (cs.drop 1) else .error .lexical

/-- The greatest number of spaces at the beginning of the lines up to the first one that is
not blank. -/
def leadingColumns : Nat → List Char → Nat
  | column, ' ' :: r => leadingColumns (column + 1) r
  | column, c :: r => if isBreak c then max column (leadingColumns 0 r) else column
  | column, [] => column

/-- Where a block scalar is being read. -/
inductive BlockState
  /-- Inside a line, and whether it began with no white space. -/
  | line (flush : Bool)
  /-- After the last break of a line, if there was a line yet, and the breaks of the empty
  lines after it, last first, with the column of the next character. -/
  | between (last : Option Char) (flush : Bool) (breaks : List Char) (column : Nat)

/-- The breaks between two lines of a block scalar, the second of which begins with `c`. When
it is folded, a break between lines that begin with no white space becomes a space. -/
def blockBreaks (isFolded : Bool) (last : Option Char) (flush : Bool) (breaks : List Char)
    (c : Char) : List Char :=
  match last with
  | none => breaks.reverse
  | some b =>
      let first :=
        if isFolded && b == '\n' && flush && !isSpace c then
          if breaks.isEmpty then [' '] else []
        else [b]
      first ++ breaks.reverse

/-- The breaks at the end of a block scalar that are kept. -/
def blockEnd (chomping : Chomping) (last : Option Char) (breaks : List Char) : List Char :=
  (if chomping = .strip then [] else last.toList) ++
    (if chomping = .keep then breaks.reverse else [])

/-- The lines of a block scalar that begin in the column `start`, and what is left after
them. -/
def blockLines (isFolded : Bool) (chomping : Chomping) (start : Nat) :
    BlockState → List Char → List Char × List Char
  | .line _, [] => ([], [])
  | .between last _ breaks _, [] => (blockEnd chomping last breaks, [])
  | .line flush, c :: r =>
      if isBreak c then
        blockLines isFolded chomping start (.between (some (breakText c)) flush [] 0) r
      else
        let (text, rest) := blockLines isFolded chomping start (.line flush) r
        (c :: text, rest)
  | .between last flush breaks column, c :: r =>
      if c = ' ' ∧ column < start then
        blockLines isFolded chomping start (.between last flush breaks (column + 1)) r
      else if isBreak c then
        blockLines isFolded chomping start
          (.between last flush (breakText c :: breaks) 0) r
      else if column = start then
        let (text, rest) := blockLines isFolded chomping start (.line (!isSpace c)) r
        (blockBreaks isFolded last flush breaks c ++ c :: text, rest)
      else (blockEnd chomping last breaks, c :: r)

/-- The text of a **block** scalar behind its mark, and what is left after it. Its lines begin
in the column that the signs ask for, counted from `least`, or else in the column of the
first line that is not blank. -/
def block (isFolded : Bool) (least : Nat) (cs : List Char) :
    Except Fault (List Char × List Char) := do
  let (chomping, columns, r) ← blockSigns cs
  let r ← restOfLine r
  let start := match columns with
    | some n => least + n - 1
    | none => max least (leadingColumns 0 r)
  return blockLines isFolded chomping start (.between none false [] 0) r

end SheetFormula.Yaml
