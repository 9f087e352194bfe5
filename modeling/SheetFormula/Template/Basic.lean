import SheetFormula.Datum.Kind
import SheetFormula.Template.Field

/-!
# Templates

Texts with fields between braces into which a value is put. A field names its argument by a
number or leaves it to be counted, may go on to an attribute or item of it, may ask for one
of its texts by a conversion, and may end with a specification, which may itself hold
fields. Doubled braces stand for single ones.

There is one argument, the number zero. The first fault of a template counts, in the order
in which its fields are filled, so a template is read only as far as its first flaw before
the fields up to there are filled.
-/

namespace SheetFormula.Template

open Text

/-- A field between braces. -/
structure Field where
  name : List Char
  conversion : Option Char
  spec : List Char
  /-- The specification holds fields itself. -/
  nested : Bool

/-- A piece of a template. -/
inductive Piece
  | literal (cs : List Char)
  | field (f : Field)

/-- The text after the next closing bracket, from that bracket on. -/
def toBracket (cs : List Char) : List Char × List Char :=
  (cs.takeWhile (· ≠ ']'), cs.dropWhile (· ≠ ']'))

/-- The name of a field up to the character that ends it, that character, and what is left.
A bracket hides what ends a name up to the closing bracket. The first argument bounds the
number of steps. -/
def fieldName : Nat → List Char → Except Fault (List Char × Char × List Char)
  | 0, _ | _, [] => throw .unclosedName
  | fuel + 1, c :: r =>
      if c = '\x7b' then throw .openInName
      else if c = '[' then do
        let (inside, rest) := toBracket r
        let (name, ending, rest) ← fieldName fuel rest
        return (c :: inside ++ name, ending, rest)
      else if c = '\x7d' ∨ c = ':' ∨ c = '!' then return ([], c, r)
      else do
        let (name, ending, rest) ← fieldName fuel r
        return (c :: name, ending, rest)

/-- A specification up to the brace that closes the field, what is left, and whether there
are braces inside. The first argument is the number of open braces. -/
def specText : Nat → List Char → Except Fault (List Char × List Char × Bool)
  | _, [] => throw .unclosedSpec
  | depth, c :: r =>
      if c = '\x7d' then
        if depth ≤ 1 then return ([], r, false)
        else do
          let (spec, rest, nested) ← specText (depth - 1) r
          return (c :: spec, rest, nested)
      else do
        let isOpen := c == '\x7b'
        let (spec, rest, nested) ← specText (if isOpen then depth + 1 else depth) r
        return (c :: spec, rest, nested || isOpen)

/-- The field behind an opening brace, and what is left after it. -/
def field (cs : List Char) : Except Fault (Field × List Char) := do
  let (name, ending, r) ← fieldName (cs.length + 1) cs
  let withSpec (conversion : Option Char) (r : List Char) : Except Fault (Field × List Char) := do
    let (spec, rest, nested) ← specText 1 r
    return (⟨name, conversion, spec, nested⟩, rest)
  if ending = ':' then withSpec none r
  else if ending = '!' then
    match r with
    | [] => throw .noConversion
    | [c] => withSpec (some c) []
    | c :: d :: rest =>
        if d = '\x7d' then return (⟨name, some c, [], false⟩, rest)
        else if d = ':' then withSpec (some c) rest
        else throw .afterConversion
  else return (⟨name, none, [], false⟩, r)

/-- The pieces of a template up to its first flaw, and that flaw. The first argument bounds
the number of pieces; the length of the template is always enough. -/
def pieces : Nat → List Char → List Piece × Option Fault
  | 0, _ | _, [] => ([], none)
  | fuel + 1, c :: r =>
      if c = '\x7b' ∨ c = '\x7d' then
        match r with
        | d :: r' =>
            if d = c then
              let (ps, flaw) := pieces fuel r'
              (.literal [c] :: ps, flaw)
            else if c = '\x7d' then ([], some .singleClose)
            else match field r with
              | .error e => ([], some e)
              | .ok (f, rest) =>
                  let (ps, flaw) := pieces fuel rest
                  (.field f :: ps, flaw)
        | [] => ([], some (if c = '\x7b' then .singleOpen else .singleClose))
      else
        let (ps, flaw) := pieces fuel r
        (.literal [c] :: ps, flaw)

/-- How the fields of a template number their arguments. -/
inductive Numbering
  | undecided
  | automatic (next : Nat)
  | manual

/-- A text that is a number as a whole. -/
def wholeNumber? (cs : List Char) : Except Fault (Option Nat) := do
  if cs.isEmpty then return none
  let ds := cs.takeWhile fun c => (digitValue? c).isSome
  match ← number cs with
  | (some n, _) => return (if ds.length = cs.length then some n else none)
  | (none, _) => return none

/-- The number of the argument that a name stands for, and the numbering after it. -/
def argumentIndex (numbering : Numbering) (name : List Char) : Except Fault (Nat × Numbering) := do
  match ← wholeNumber? name, name with
  | some i, _ =>
      match numbering with
      | .automatic _ => throw .manualAfterAutomatic
      | _ => return (i, .manual)
  | none, [] =>
      match numbering with
      | .undecided => return (0, .automatic 1)
      | .automatic next => return (next, .automatic (next + 1))
      | .manual => throw .automaticAfterManual
  | none, name => throw (.noName (String.ofList name))

/-- What a field shows: a value, or what the attributes of values lead to beside values. -/
inductive Subject
  | value (d : Datum)
  | kind (k : Datum.Kind)
  | kinds (ks : List Datum.Kind)

namespace Subject

/-- The kind of a subject. -/
def kindOf : Subject → Datum.Kind
  | .value d => d.kind
  | .kind _ => .kind
  | .kinds _ => .tuple

/-- The text of a subject, none when there is an integer of too many digits in it. -/
def text? : Subject → Option String
  | .value d => d.text?
  | .kind k => some k.shown
  | .kinds ks => some (Datum.tupleOf (ks.map Datum.Kind.shown))

/-- A subject as it is shown, with texts between quotes. -/
def shown? : Subject → Option String
  | .value d => d.shown?
  | s => s.text?

end Subject

/-- An attribute of an integer. -/
def wholeAttribute? (name : String) (i : Int) : Option Datum :=
  if name = "real" ∨ name = "numerator" then some (.whole i)
  else if name = "imag" then some (.whole 0)
  else if name = "denominator" then some (.whole 1)
  else none

/-- An attribute that values of the kind of the value alone have. -/
def valueAttribute? (name : String) : Datum → Option Datum
  | .real x =>
      if name = "real" then some (.real x)
      else if name = "imag" then some (.real 0)
      else none
  | .whole i => wholeAttribute? name i
  | .bool b => wholeAttribute? name (if b then 1 else 0)
  | _ => none

/-- An attribute that kinds alone have. -/
def kindAttribute? (name : String) (k : Datum.Kind) : Option Subject :=
  if name = "__name__" ∨ name = "__qualname__" then some (.value (.text k.name))
  else if name = "__module__" then some (.value (.text k.group))
  else if name = "__base__" then some ((k.above?.map Subject.kind).getD (.value .null))
  else if name = "__bases__" then some (.kinds k.above?.toList)
  else if name = "__mro__" then some (.kinds k.lineage)
  else none

/-- An **attribute** of a subject. All subjects have their kind as one. -/
def attributeOf (name : String) (s : Subject) : Except Fault Subject :=
  let found :=
    if name = "__class__" then some (.kind s.kindOf)
    else match s with
      | .value d => (valueAttribute? name d).map Subject.value
      | .kind k => kindAttribute? name k
      | .kinds _ => none
  match found with
  | some found => pure found
  | none => throw (.noAttribute name)

/-- An **item** of a subject: a character of a text, an item of a list or one of several
kinds by its number, or a field of a record. -/
def item (name : String) (index : Option Nat) (s : Subject) : Except Fault Subject :=
  match s, index with
  | .value (.text s), some i =>
      match s.letters[i]? with
      | some l => pure (.value (.text (.ofLetters [l])))
      | none => throw .noCharacter
  | .value (.list items), some i =>
      match items[i]? with
      | some d => pure (.value d)
      | none => throw .noItem
  | .value (.record fields), index =>
      let key := match index with
        | some i => .whole i
        | none => .text name
      match fields.find? (·.1.sameKey key) with
      | some (_, d) => pure (.value d)
      | none => throw (.noName name)
  | .kinds ks, some i =>
      match ks[i]? with
      | some k => pure (.kind k)
      | none => throw .noPart
  | _, _ => throw .unsuited

/-- What a path of attributes and items leads to from a subject. The first argument bounds
the number of steps. -/
def follow : Nat → List Char → Subject → Except Fault Subject
  | 0, _, subject | _, [], subject => pure subject
  | fuel + 1, c :: r, subject =>
      if c = '.' then do
        let name := r.takeWhile fun c => c != '.' && c != '['
        if name.isEmpty then throw .emptyAttribute
        follow fuel (r.drop name.length) (← attributeOf (String.ofList name) subject)
      else if c = '[' then do
        let (name, rest) := toBracket r
        if rest.isEmpty then throw .unclosedItem
        let index ← wholeNumber? name
        if name.isEmpty then throw .emptyAttribute
        follow fuel (rest.drop 1) (← item (String.ofList name) index subject)
      else throw .afterItem

/-- The subject that the name of a field stands for, and the numbering after it. -/
def select (value : Datum) (numbering : Numbering) (name : List Char) :
    Except Fault (Subject × Numbering) := do
  let first := name.takeWhile fun c => c != '.' && c != '['
  let (index, numbering) ← argumentIndex numbering first
  if index ≠ 0 then throw (.noArgument index)
  let selected ← follow (name.length + 1) (name.drop first.length) (.value value)
  return (selected, numbering)

/-- The text of a subject that a conversion asks for. -/
def convert (conversion : Option Char) (s : Subject) : Except Fault Subject := do
  let need (text : Option String) : Except Fault Subject :=
    match text with
    | some t => pure (.value (.text t))
    | none => throw .unwritable
  match conversion with
  | none => return s
  | some 's' => need s.text?
  | some 'r' => need s.shown?
  | some 'a' => need (s.shown?.map asciiOnly)
  | some c => throw (.unknownConversion c)

/-- A subject in a field with the specification that a text writes. What is no value has no
layout. -/
def laySubject (spec : String) : Subject → Except Fault String
  | .value d => layValue spec d
  | s => if spec.isEmpty then pure (s.text?.getD "") else throw .unsuited

/-- A template filled with a value, going on with a numbering. The first argument bounds the
depth of specifications in specifications. -/
def fillFrom : Nat → Numbering → List Char → Datum → Except Fault (String × Numbering)
  | 0, _, _, _ => throw .tooDeep
  | depth + 1, numbering, template, value => do
      let (ps, flaw) := pieces (template.length + 1) template
      let step (state : String × Numbering) (p : Piece) : Except Fault (String × Numbering) := do
        let (text, numbering) := state
        match p with
        | .literal cs => return (text ++ String.ofList cs, numbering)
        | .field f => do
            let (selected, numbering) ← select value numbering f.name
            let converted ← convert f.conversion selected
            let (spec, numbering) ←
              if f.nested then fillFrom depth numbering f.spec value
              else pure (String.ofList f.spec, numbering)
            return (text ++ (← laySubject spec converted), numbering)
      let result ← ps.foldlM step ("", numbering)
      match flaw with
      | some e => throw e
      | none => return result

/-- A **template filled with a value**. -/
def fill (template : String) (value : Datum) : Except Fault String := do
  return (← fillFrom 2 .undecided template.toList value).1

end SheetFormula.Template
