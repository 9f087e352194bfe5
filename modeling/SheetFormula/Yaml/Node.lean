import SheetFormula.Yaml.Plain
import SheetFormula.Yaml.Token

/-!
# Reading Nodes

The node that a list of tokens writes. A node begins with its properties, an anchor and a
tag in any order. Its content is a scalar, a block, or a collection between brackets or
braces; a node with properties alone, and one that is left out, is an empty scalar.

An anchor gives a node a name by which aliases after it stand for the node, also inside of
the node itself. A name is given once in a document, and there is one document in a text.
-/

namespace SheetFormula.Yaml

/-- What is left to be read, and the names that are known. -/
structure Source where
  tokens : List Token
  /-- The fault that is met after the last token. -/
  ending : Fault
  /-- The beginnings of tags that handles stand for. -/
  handles : List (String × String)
  /-- The numbers of the nodes by the names that anchors gave them. -/
  anchors : List (String × NodeId)
  /-- The nodes that have been read or begun. -/
  nodes : Document

/-- **Reading** from a source. -/
abbrev Parse (α : Type) : Type := StateT Source (Except Fault) α

namespace Parse

/-- The next token, which is left to be read. -/
def peek : Parse Token := do
  let s ← get
  match s.tokens with
  | t :: _ => pure t
  | [] => throw s.ending

/-- Takes the next token. -/
def skip : Parse Unit := do
  let _ ← peek
  modify fun s => { s with tokens := s.tokens.drop 1 }

/-- Takes the next token if it is the given one, and whether it was. -/
def takes (t : Token) : Parse Bool := do
  if (← peek) = t then
    skip
    pure true
  else pure false

/-- Whether the next token is one of the given ones. -/
def isAt (ts : List Token) : Parse Bool := do return ts.contains (← peek)

/-- The handles that are always there. -/
def knownHandles : List (String × String) := [("!", "!"), ("!!", Tag.base)]

/-- The full name of a tag. -/
def fullTag : Option String → String → Parse String
  | none, suffix => pure suffix
  | some handle, suffix => do
      match (← get).handles.lookup handle with
      | some beginning => pure (beginning ++ suffix)
      | none => throw .grammatical

/-- The **properties** of a node: the name that an anchor gives it and the full name of its
tag. -/
structure Properties where
  anchor : Option String
  tag : Option String

/-- The properties at the beginning of a node. -/
def properties : Parse Properties := do
  match ← peek with
  | .anchor name =>
      skip
      match ← peek with
      | .tag handle suffix =>
          skip
          return ⟨some name, some (← fullTag handle suffix)⟩
      | _ => return ⟨some name, none⟩
  | .tag handle suffix =>
      skip
      match ← peek with
      | .anchor name =>
          skip
          return ⟨some name, some (← fullTag handle suffix)⟩
      | _ => return ⟨none, some (← fullTag handle suffix)⟩
  | _ => return ⟨none, none⟩

/-- The tag of a node with the properties: the one that is named, or the one that the node
has by itself. -/
def Properties.tagOr (p : Properties) (own : Tag) : Tag :=
  match p.tag with
  | none => own
  | some name => if name = "!" then own else .ofName name

/-- Adds a node to the document. -/
def add (n : Node) : Parse NodeId := do
  let id := (← get).nodes.size
  modify fun s => { s with nodes := s.nodes.push n }
  return id

/-- Begins a node. It gets the name that its anchor asks for, which must be a new one. -/
def begin (p : Properties) : Parse NodeId := do
  let id ← add .absent
  match p.anchor with
  | none => return id
  | some name =>
      if ((← get).anchors.lookup name).isSome then throw .naming
      modify fun s => { s with anchors := (name, id) :: s.anchors }
      return id

/-- Puts in a node that was begun. -/
def finish (id : NodeId) (n : Node) : Parse NodeId := do
  modify fun s => { s with nodes := s.nodes.put id n }
  return id

/-- A scalar with the properties. -/
def scalar (p : Properties) (text : LooseText) (isPlain : Bool) : Parse NodeId := do
  let own := if isPlain || p.tag.isSome then Tag.ofPlain text.replaced else .str
  finish (← begin p) (.scalar (p.tagOr own) text)

/-- Takes the comma before an item or entry that is not the first one. -/
def separator (isFirst : Bool) : Parse Unit := do
  if isFirst then pure ()
  else if ← takes .comma then pure ()
  else throw .grammatical

/-- A node that is left out. -/
def absent : Parse NodeId := add .absent

/-- Where a node stands: it may be a block, and a block of items need not be indented. -/
structure Slot where
  allowsBlock : Bool
  allowsItems : Bool

/-- Between brackets or braces. -/
def Slot.inFlow : Slot := ⟨false, false⟩

/-- An item of a block. -/
def Slot.inItem : Slot := ⟨true, false⟩

/-- A key or a value of a block. -/
def Slot.inEntry : Slot := ⟨true, true⟩

mutual

/-- The node in a slot. The first argument bounds the depth and the number of parts; three
times the number of tokens is always enough. -/
def node : Nat → Slot → Parse NodeId
  | 0, _ => throw .grammatical
  | fuel + 1, slot => do
      match ← peek with
      | .alias name =>
          skip
          match (← get).anchors.lookup name with
          | some id => pure id
          | none => throw .naming
      | _ =>
          let p ← properties
          match ← peek with
          | .scalar text isPlain =>
              skip
              scalar p text isPlain
          | .openBracket =>
              let id ← begin p
              skip
              finish id (.sequence (p.tagOr .seq) (← flowItems fuel true))
          | .openBrace =>
              let id ← begin p
              skip
              finish id (.mapping (p.tagOr .map) (← flowEntries fuel true))
          | t =>
              if t = .item ∧ slot.allowsItems then
                let id ← begin p
                finish id (.sequence (p.tagOr .seq) (← looseItems fuel))
              else if t = .blockSequence ∧ slot.allowsBlock then
                let id ← begin p
                skip
                finish id (.sequence (p.tagOr .seq) (← blockItems fuel))
              else if t = .blockMapping ∧ slot.allowsBlock then
                let id ← begin p
                skip
                finish id (.mapping (p.tagOr .map) (← blockEntries fuel))
              else if p.anchor.isSome || p.tag.isSome then scalar p "" true
              else throw .grammatical

/-- The node in a slot, which is left out before one of the given tokens. -/
def nodeUnless : Nat → Slot → List Token → Parse NodeId
  | 0, _, _ => throw .grammatical
  | fuel + 1, slot, ends => do
      if ← isAt ends then absent else node fuel slot

/-- The items of a block up to its end. -/
def blockItems : Nat → Parse (List NodeId)
  | 0 => throw .grammatical
  | fuel + 1 => do
      if ← takes .item then
        let n ← nodeUnless fuel .inItem [.item, .blockEnd]
        return n :: (← blockItems fuel)
      else if ← takes .blockEnd then return []
      else throw .grammatical

/-- The items of a block without indentation. -/
def looseItems : Nat → Parse (List NodeId)
  | 0 => throw .grammatical
  | fuel + 1 => do
      if ← takes .item then
        let n ← nodeUnless fuel .inItem [.item, .key, .value, .blockEnd]
        return n :: (← looseItems fuel)
      else return []

/-- The keys and values of a block up to its end. -/
def blockEntries : Nat → Parse (List (NodeId × NodeId))
  | 0 => throw .grammatical
  | fuel + 1 => do
      if ← takes .key then
        let k ← nodeUnless fuel .inEntry [.key, .value, .blockEnd]
        let v ← blockValue fuel
        return (k, v) :: (← blockEntries fuel)
      else if ← takes .blockEnd then return []
      else throw .grammatical

/-- The value behind a key of a block. -/
def blockValue : Nat → Parse NodeId
  | 0 => throw .grammatical
  | fuel + 1 => do
      if ← takes .value then nodeUnless fuel .inEntry [.key, .value, .blockEnd]
      else absent

/-- The items between brackets up to the closing one. The flag says whether none has been
read yet. -/
def flowItems : Nat → Bool → Parse (List NodeId)
  | 0, _ => throw .grammatical
  | fuel + 1, isFirst => do
      if ← takes .closeBracket then return []
      else
        separator isFirst
        if ← takes .key then
          let k ← nodeUnless fuel .inFlow [.value, .comma, .closeBracket]
          let v ← flowValue fuel .closeBracket
          let n ← add (.mapping .map [(k, v)])
          return n :: (← flowItems fuel false)
        else if ← takes .closeBracket then return []
        else
          let n ← node fuel .inFlow
          return n :: (← flowItems fuel false)

/-- The value behind a key between brackets or braces, the closing one of which is given. -/
def flowValue : Nat → Token → Parse NodeId
  | 0, _ => throw .grammatical
  | fuel + 1, closing => do
      if ← takes .value then nodeUnless fuel .inFlow [.comma, closing]
      else absent

/-- The keys and values between braces up to the closing one. The flag says whether none has
been read yet. -/
def flowEntries : Nat → Bool → Parse (List (NodeId × NodeId))
  | 0, _ => throw .grammatical
  | fuel + 1, isFirst => do
      if ← takes .closeBrace then return []
      else
        separator isFirst
        if ← takes .key then
          let k ← nodeUnless fuel .inFlow [.value, .comma, .closeBrace]
          let v ← flowValue fuel .closeBrace
          return (k, v) :: (← flowEntries fuel false)
        else if ← takes .closeBrace then return []
        else
          let k ← node fuel .inFlow
          let v ← absent
          return (k, v) :: (← flowEntries fuel false)

end

/-- The handles that directives define, which come before a document. -/
def directives : Nat → Bool → List (String × String) → Parse (List (String × String))
  | 0, _, handles => pure handles
  | fuel + 1, hasVersion, handles => do
      match ← peek with
      | .directive d =>
          skip
          match d with
          | .version major =>
              if hasVersion || major ≠ 1 then throw .grammatical
              else directives fuel true handles
          | .handle name beginning =>
              if (handles.lookup name).isSome then throw .grammatical
              else directives fuel hasVersion ((name, beginning) :: handles)
          | .reserved => directives fuel hasVersion handles
      | _ => pure handles

/-- Takes the markers of the end of a document. -/
def skipEnds : Nat → Parse Unit
  | 0 => pure ()
  | fuel + 1 => do
      if ← takes .documentEnd then skipEnds fuel else pure ()

/-- Begins a document with its directives and its marker, and whether there is one. -/
def opensDocument (fuel : Nat) : Parse Bool := do
  skipEnds fuel
  if ← isAt [.streamEnd] then return false
  else
    let handles ← directives fuel false []
    modify fun s => { s with handles := handles ++ knownHandles }
    if ← takes .documentStart then return true else throw .grammatical

/-- Whether the next token is a directive. -/
def isAtDirective : Parse Bool := do return (← peek) matches .directive _

/-- The root of the only document of a source, none when there is no document. -/
def document : Parse (Option NodeId) := do
  let fuel := 3 * (← get).tokens.length + 3
  let isMarked ← (do return (← isAtDirective) || (← isAt [.documentStart, .streamEnd]))
  if isMarked then
    if ← opensDocument fuel then
      let isEmpty ← (do
        return (← isAtDirective) || (← isAt [.documentStart, .documentEnd, .streamEnd]))
      let n ← if isEmpty then absent else node fuel .inItem
      close fuel n
    else return none
  else
    let n ← node fuel .inItem
    close fuel n
where
  /-- Makes sure that no other document comes after a node. -/
  close (fuel : Nat) (n : NodeId) : Parse (Option NodeId) := do
    if ← opensDocument fuel then throw .naming else return some n

end Parse

/-- The **document that a text writes** with the number of its root, none when there is none. -/
def Document.read? (cs : List Char) : Except Fault (Option (Document × NodeId)) := do
  let (ts, fault) := tokens cs
  let (root, s) ← Parse.document.run ⟨ts, fault.getD .grammatical, Parse.knownHandles, [], #[]⟩
  return root.map fun id => (s.nodes, id)

end SheetFormula.Yaml
