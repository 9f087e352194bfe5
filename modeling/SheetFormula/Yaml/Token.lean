import SheetFormula.Yaml.Scalar

/-!
# Tokens of YAML

The tokens of a text. Blocks are told by indentation, so the lexer keeps the columns in
which the open blocks began and closes a block at the first token left of it. It sees that
a token was the key of a mapping only when it comes to the colon behind it. Until then the
token is a candidate, and the marks of the key and of a block that begins with it go in
front of it later.

A reader of the tokens may not look at a candidate before it is decided. So where a text
ends with a fault, only the tokens before the first candidate are there to be read.
-/

namespace SheetFormula.Yaml

open Text Decimal

/-- A **directive** in front of a document. -/
inductive Directive
  /-- The version of the language; only its first number counts. -/
  | version (major : Int)
  /-- A handle that stands for the beginning of tags. -/
  | handle (name beginning : String)
  | reserved
  deriving DecidableEq, Repr

/-- A **token**. -/
inductive Token
  | directive (d : Directive)
  | documentStart
  | documentEnd
  | streamEnd
  /-- The beginning of a block of items. -/
  | blockSequence
  /-- The beginning of a block of keys. -/
  | blockMapping
  | blockEnd
  | openBracket
  | closeBracket
  | openBrace
  | closeBrace
  /-- The mark of an item in a block. -/
  | item
  | comma
  | key
  | value
  | alias (name : String)
  | anchor (name : String)
  /-- A tag, with the handle it begins with if there is one. -/
  | tag (handle : Option String) (suffix : String)
  | scalar (text : LooseText) (isPlain : Bool)
  deriving DecidableEq, Repr

/-! ### Tokens of one word -/

/-- The name of an anchor or alias, and what is left after it. -/
def anchorName (cs : List Char) : Except Fault (String × List Char) :=
  let name := cs.takeWhile isNameChar
  let rest := cs.dropWhile isNameChar
  let ends := atEndOr (fun c => isSpace c || isBreak c ||
    ['?', ':', ',', ']', '\x7d', '%', '@', '\x60'].contains c) rest
  if name.isEmpty || !ends then .error .lexical else .ok (String.ofList name, rest)

/-- Whether the character may stand in a tag. -/
def isTagChar (c : Char) : Bool := c.isAlphanum || "-;/?:@&=+$,_.!~*'()[]".toList.contains c

/-- The characters of bytes, none when they are no UTF-8. -/
def ofBytes? (bytes : List UInt8) : Option (List Char) :=
  (String.fromUTF8? ⟨bytes.toArray⟩).map String.toList

/-- The text of a tag and what is left after it, with the bytes that two hexadecimal digits
behind a percent sign stand for. The list holds the bytes just met, last first. -/
def tagChars : List UInt8 → List Char → Except Fault (List Char × List Char)
  | bytes, '%' :: a :: b :: r =>
      match hexValue? [a, b] with
      | some n => tagChars (UInt8.ofNat n :: bytes) r
      | none => .error .lexical
  | bytes, c :: r =>
      match ofBytes? bytes.reverse with
      | none => .error .lexical
      | some cs =>
          if isTagChar c then prepend (cs ++ [c]) (tagChars [] r)
          else if c = '%' then .error .lexical
          else .ok (cs, c :: r)
  | bytes, [] =>
      match ofBytes? bytes.reverse with
      | none => .error .lexical
      | some cs => .ok (cs, [])

/-- The text of a tag, which is not empty. -/
def tagText (cs : List Char) : Except Fault (String × List Char) := do
  let (text, rest) ← tagChars [] cs
  if rest.length = cs.length then .error .lexical else .ok (String.ofList text, rest)

/-- A handle of tags: an exclamation mark, or a name between two of them. -/
def tagHandle : List Char → Except Fault (String × List Char)
  | '!' :: r =>
      if atChar (· == ' ') r then .ok ("!", r)
      else match r.dropWhile isNameChar with
        | '!' :: rest => .ok ("!" ++ String.ofList (r.takeWhile isNameChar) ++ "!", rest)
        | _ => .error .lexical
  | _ => .error .lexical

/-- A tag behind its exclamation mark, and what is left after it. -/
def tagToken (r : List Char) : Except Fault (Token × List Char) := do
  let (token, rest) ← match r with
    | '<' :: r' => do
        let (text, rest) ← tagText r'
        match rest with
        | '>' :: rest => .ok (Token.tag none text, rest)
        | _ => .error Fault.lexical
    | r =>
        if atBlank r then .ok (Token.tag none "!", r)
        else do
          let word := r.takeWhile fun c => !(c == ' ' || isBreak c)
          let (handle, r') ← if word.contains '!' then tagHandle ('!' :: r) else .ok ("!", r)
          let (text, rest) ← tagText r'
          .ok (Token.tag (some handle) text, rest)
  if atGap rest then .ok (token, rest) else .error .lexical

/-- A number in a directive. -/
def directiveNumber (cs : List Char) : Except Fault (Int × List Char) :=
  match readNumeral 10 (String.ofList (cs.takeWhile Char.isDigit)) with
  | .ok n => .ok (n, cs.dropWhile Char.isDigit)
  | .error .malformed => .error .lexical
  | .error (.tooLong digits) => .error (.tooLong digits)

/-- A directive behind its percent sign, and what is left after its line. -/
def directiveToken (cs : List Char) : Except Fault (Token × List Char) := do
  let name := cs.takeWhile isNameChar
  let r := cs.dropWhile isNameChar
  if name.isEmpty || !atGap r then .error .lexical
  else
    let skip := List.dropWhile (· == ' ')
    let (d, rest) ←
      if name = "YAML".toList then do
        let (major, r) ← directiveNumber (skip r)
        match r with
        | '.' :: r => do
            let (_, rest) ← directiveNumber r
            if atGap rest then .ok (Directive.version major, rest) else .error Fault.lexical
        | _ => .error Fault.lexical
      else if name = "TAG".toList then do
        let (handle, r) ← tagHandle (skip r)
        if atChar (· == ' ') r then do
          let (beginning, rest) ← tagText (skip r)
          if atGap rest then .ok (Directive.handle handle beginning, rest)
          else .error Fault.lexical
        else .error Fault.lexical
      else .ok (Directive.reserved, r.dropWhile (!isBreak ·))
    let rest ← restOfLine rest
    .ok (.directive d, rest)

/-! ### The lexer -/

/-- A **place** in a text. -/
structure Place where
  index : Nat
  line : Nat
  column : Nat
  deriving DecidableEq, Repr

/-- The place after a character. The mark of the byte order takes no column. -/
def Place.step (p : Place) (c : Char) : Place :=
  if isBreak c then ⟨p.index + 1, p.line + 1, 0⟩
  else ⟨p.index + 1, p.line, if c = '\ufeff' then p.column else p.column + 1⟩

/-- A token that may turn out to be a key. -/
structure Candidate where
  /-- The number of tokens before it. -/
  number : Nat
  place : Place
  /-- Whether nothing else than a key may stand there. -/
  required : Bool
  deriving DecidableEq, Repr

/-- A **lexer** on its way through a text. -/
structure Lexer where
  rest : List Char
  place : Place
  /-- The number of open brackets and braces. -/
  flow : Nat
  /-- The column of the innermost block, which is `-1` outside of all blocks. -/
  indent : Int
  /-- The columns of the blocks around it. -/
  outer : List Int
  /-- Whether a key may begin here. -/
  allowsKey : Bool
  /-- The candidate at each number of open brackets that has one. -/
  candidates : List (Nat × Candidate)
  /-- The tokens, last first. -/
  tokens : List Token

namespace Lexer

/-- The lexer at the beginning of a text. -/
def start (cs : List Char) : Lexer :=
  ⟨cs, ⟨0, 0, 0⟩, 0, -1, [], true, [], []⟩

/-- The lexer moved on to the place where the text `rest` is left. -/
def moveTo (l : Lexer) (rest : List Char) : Lexer :=
  { l with
    rest
    place := (l.rest.take (l.rest.length - rest.length)).foldl Place.step l.place }

/-- The lexer with one more token. -/
def push (l : Lexer) (t : Token) : Lexer := { l with tokens := t :: l.tokens }

/-- The lexer with a token put in after the first `number` ones. -/
def insert (l : Lexer) (number : Nat) (t : Token) : Lexer :=
  { l with tokens := l.tokens.insertIdx (l.tokens.length - number) t }

/-- The candidate at the present number of open brackets. -/
def candidate? (l : Lexer) : Option Candidate := l.candidates.lookup l.flow

/-- The lexer without this candidate, which must not be one that has to be a key. -/
def dropCandidate (l : Lexer) : Except Fault Lexer :=
  if l.candidate?.any Candidate.required then .error .lexical
  else .ok { l with candidates := l.candidates.filter (·.1 != l.flow) }

/-- The lexer with the next token as a candidate, if a key may begin here. -/
def addCandidate (l : Lexer) : Except Fault Lexer :=
  if l.allowsKey then do
    let required := l.flow == 0 && l.indent == l.place.column
    let l ← l.dropCandidate
    .ok { l with
      candidates := (l.flow, ⟨l.tokens.length, l.place, required⟩) :: l.candidates }
  else .ok l

/-- Whether a candidate can no longer be a key: it lies in another line, or too far back. -/
def isStale (l : Lexer) (k : Candidate) : Bool :=
  k.place.line != l.place.line || 1024 < l.place.index - k.place.index

/-- The lexer without the candidates that can no longer be keys. -/
def dropStale (l : Lexer) : Except Fault Lexer :=
  if l.candidates.any fun k => l.isStale k.2 && k.2.required then .error .lexical
  else .ok { l with candidates := l.candidates.filter fun k => !l.isStale k.2 }

/-- The number of tokens before the first candidate. -/
def decided (l : Lexer) : Nat :=
  l.candidates.foldl (fun n k => min n k.2.number) l.tokens.length

/-- The columns of the blocks that are left and the number of those that end, when the next
token is in a column. -/
def endBlocks (column : Int) : Int → List Int → Int × List Int × Nat
  | indent, [] => (indent, [], 0)
  | indent, o :: os =>
      if column < indent then
        let (indent, outer, n) := endBlocks column o os
        (indent, outer, n + 1)
      else (indent, o :: os, 0)

/-- The lexer with the blocks closed that began right of a column. Inside brackets there are
no blocks to close. -/
def unwind (l : Lexer) (column : Int) : Lexer :=
  if l.flow ≠ 0 then l
  else
    let (indent, outer, n) := endBlocks column l.indent l.outer
    { l with indent, outer, tokens := List.replicate n .blockEnd ++ l.tokens }

/-- The lexer with a block opened in a column, if that lies right of the innermost one, and
whether it was. -/
def openBlock (l : Lexer) (column : Nat) : Lexer × Bool :=
  if l.indent < column then ({ l with indent := column, outer := l.indent :: l.outer }, true)
  else (l, false)

/-- The lexer after the mark of an item or of a key. Outside of brackets it opens a block
with the token `opener`, and it must stand where a key may begin. -/
def pushMark (l : Lexer) (opener : Token) : Except Fault Lexer :=
  if l.flow ≠ 0 then .ok l
  else if !l.allowsKey then .error .lexical
  else match l.openBlock l.place.column with
    | (l, true) => .ok (l.push opener)
    | (l, false) => .ok l

/-- The lexer after a token of one character. -/
def pushChar (l : Lexer) (t : Token) : Lexer := (l.moveTo (l.rest.drop 1)).push t

/-- The lexer after the end of the text. -/
def atStreamEnd (l : Lexer) : Except Fault Lexer := do
  let l ← (l.unwind (-1)).dropCandidate
  .ok ({ l with candidates := [] }.push .streamEnd)

/-- The lexer after a directive or a marker between documents, which end all blocks. -/
def pushOutside (l : Lexer) (t : Token) (rest : List Char) : Except Fault Lexer := do
  let l ← (l.unwind (-1)).dropCandidate
  .ok ({ l with allowsKey := false }.moveTo rest |>.push t)

/-- The lexer after a bracket or brace that opens. -/
def pushOpen (l : Lexer) (t : Token) : Except Fault Lexer := do
  let l ← l.addCandidate
  .ok ({ l with flow := l.flow + 1, allowsKey := true }.pushChar t)

/-- The lexer after a bracket or brace that closes. -/
def pushClose (l : Lexer) (t : Token) : Except Fault Lexer := do
  let l ← l.dropCandidate
  .ok ({ l with flow := l.flow - 1, allowsKey := false }.pushChar t)

/-- The lexer after a comma. -/
def pushComma (l : Lexer) : Except Fault Lexer := do
  let l ← l.dropCandidate
  .ok ({ l with allowsKey := true }.pushChar .comma)

/-- The lexer after the mark of an item. -/
def pushItem (l : Lexer) : Except Fault Lexer := do
  let l ← l.pushMark .blockSequence
  let l ← l.dropCandidate
  .ok ({ l with allowsKey := true }.pushChar .item)

/-- The lexer after the mark of a key. -/
def pushKey (l : Lexer) : Except Fault Lexer := do
  let l ← l.pushMark .blockMapping
  let l ← l.dropCandidate
  .ok ({ l with allowsKey := l.flow == 0 }.pushChar .key)

/-- The lexer after the colon behind a key. It makes a key of the candidate, if there is one,
and a block of keys may begin with it. -/
def pushValue (l : Lexer) : Except Fault Lexer :=
  match l.candidate? with
  | some k =>
      let l := { l with candidates := l.candidates.filter (·.1 != l.flow), allowsKey := false }
      let l := l.insert k.number .key
      let l :=
        if l.flow ≠ 0 then l
        else match l.openBlock k.place.column with
          | (l, true) => l.insert k.number .blockMapping
          | (l, false) => l
      .ok (l.pushChar .value)
  | none => do
      let l ← l.pushMark .blockMapping
      let l ← { l with allowsKey := l.flow == 0 }.dropCandidate
      .ok (l.pushChar .value)

/-- The lexer after a token that may be a key, with the text that is left after it. -/
def pushWord (l : Lexer) (found : Except Fault (Token × List Char)) : Except Fault Lexer := do
  let l ← l.addCandidate
  let (t, rest) ← found
  .ok ({ l with allowsKey := false }.moveTo rest |>.push t)

/-- The lexer after a plain scalar. -/
def pushPlain (l : Lexer) : Except Fault Lexer := do
  let l ← l.addCandidate
  let p := plain (l.flow != 0) (l.indent + 1).toNat .none 0 l.rest
  .ok ({ l with allowsKey := p.broke }.moveTo p.rest |>.push
    (.scalar (.whole (String.ofList p.text)) true))

/-- The lexer after a block scalar. -/
def pushBlock (l : Lexer) (isFolded : Bool) : Except Fault Lexer := do
  let l ← { l with allowsKey := true }.dropCandidate
  let (text, rest) ← block isFolded (max 1 (l.indent + 1).toNat) (l.rest.drop 1)
  .ok (l.moveTo rest |>.push (.scalar (.whole (String.ofList text)) false))

/-- A scalar between quotes as a token, where `text` makes a text of its parts. -/
def quotedToken {α : Type} (text : List α → LooseText)
    (found : Except Fault (List α × List Char)) : Except Fault (Token × List Char) :=
  found.map fun (parts, rest) => (.scalar (text parts) false, rest)

/-- A name behind its sign as a token. -/
def nameToken (token : String → Token) (cs : List Char) : Except Fault (Token × List Char) :=
  (anchorName cs).map fun (name, rest) => (token name, rest)

/-- The text without the spaces, comments and line breaks at its beginning, and whether there
was a line break. The flag says whether a comment has begun. -/
def skipGaps : Bool → List Char → List Char × Bool
  | _, [] => ([], false)
  | inComment, c :: r =>
      if isBreak c then ((skipGaps false r).1, true)
      else if inComment || c == ' ' then skipGaps inComment r
      else if c = '#' then skipGaps true r
      else (c :: r, false)

/-- The lexer at the next token: the blocks that end before it are closed. -/
def toNext (l : Lexer) : Except Fault Lexer := do
  let cs := if l.place.index = 0 ∧ atChar (· == '\ufeff') l.rest then l.rest.drop 1 else l.rest
  let (rest, broke) := skipGaps false cs
  let l := l.moveTo rest
  let l ← { l with allowsKey := l.allowsKey || (broke && l.flow == 0) }.dropStale
  .ok (l.unwind l.place.column)

/-- The characters that are marks and begin no plain scalar. -/
def marks : List Char :=
  [',', '[', ']', '\x7b', '\x7d', '#', '&', '*', '!', '|', '>', '\'', '"', '%', '@', '\x60']

/-- Whether a plain scalar begins with the character `c` before the text `r`. -/
def beginsPlain (l : Lexer) (c : Char) (r : List Char) : Bool :=
  if c == '-' then !atBlank r
  else if c == '?' || c == ':' then l.flow == 0 && !atBlank r
  else !(isSpace c || isBreak c || marks.contains c)

/-- The lexer after the token that begins here. -/
def pushNext (l : Lexer) : Except Fault Lexer :=
  match l.rest with
  | [] => l.atStreamEnd
  | c :: r =>
      let isFirst := l.place.column == 0
      if c = '%' ∧ isFirst then do
        let (t, rest) ← directiveToken r
        l.pushOutside t rest
      else if isFirst && atMarkerOf '-' (c :: r) then l.pushOutside .documentStart (r.drop 2)
      else if isFirst && atMarkerOf '.' (c :: r) then l.pushOutside .documentEnd (r.drop 2)
      else if c = '[' then l.pushOpen .openBracket
      else if c = '\x7b' then l.pushOpen .openBrace
      else if c = ']' then l.pushClose .closeBracket
      else if c = '\x7d' then l.pushClose .closeBrace
      else if c = ',' then l.pushComma
      else if c = '-' ∧ atBlank r then l.pushItem
      else if c = '?' ∧ (l.flow ≠ 0 ∨ atBlank r) then l.pushKey
      else if c = ':' ∧ (l.flow ≠ 0 ∨ atBlank r) then l.pushValue
      else if c = '*' then l.pushWord (nameToken .alias r)
      else if c = '&' then l.pushWord (nameToken .anchor r)
      else if c = '!' then l.pushWord (tagToken r)
      else if c = '|' ∧ l.flow = 0 then l.pushBlock false
      else if c = '>' ∧ l.flow = 0 then l.pushBlock true
      else if c = '\'' then l.pushWord (quotedToken (.whole ∘ String.ofList) (singleQuoted .none r))
      else if c = '"' then l.pushWord (quotedToken .ofLetters (doubleQuoted .none r))
      else if l.beginsPlain c r then l.pushPlain
      else .error .lexical

/-- The tokens from here on, with the fault that ends them if there is one. Each step takes
at least one character, so the length of the text is enough for the first argument. -/
def run : Nat → Lexer → List Token × Option Fault
  | 0, l => (l.tokens.reverse, none)
  | fuel + 1, l =>
      match l.toNext >>= pushNext with
      | .error f => (l.tokens.reverse.take l.decided, some f)
      | .ok next =>
          if next.tokens.head? = some .streamEnd then (next.tokens.reverse, none)
          else match next.dropStale with
            | .error f => (l.tokens.reverse.take l.decided, some f)
            | .ok next => run fuel next

end Lexer

/-- The **tokens of a text** that can be read, with the fault that ends them if there is one.
Without a fault the last token is the end of the stream. -/
def tokens (cs : List Char) : List Token × Option Fault :=
  (Lexer.start cs).run (cs.length + 1)

end SheetFormula.Yaml
