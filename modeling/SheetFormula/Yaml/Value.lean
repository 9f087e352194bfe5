import SheetFormula.Text.Base64
import SheetFormula.Yaml.Merge
import SheetFormula.Yaml.Node

/-!
# Values of Nodes

The value that a node stands for, as its tag says: a single value, or a collection of the
values of other nodes. The collections are filled one after the other in the order in which
they are met, each one after all that were met before it. So the nodes nearest to the root
come first, and the first fault that is met is the one that counts.

A node has one value, however often it is met. That is why a collection may hold itself, and
why a key that is not a number is the same key where it is the same node.
-/

namespace SheetFormula.Yaml

open Text

/-! ### Single values -/

namespace Document

/-- The text of a scalar, or the text that a mapping has under its key of the plain value.
The number bounds how many mappings are looked into. -/
def plainText? (d : Document) : Nat → NodeId → Option LooseText
  | 0, _ => none
  | fuel + 1, id =>
      match d.node id with
      | .scalar _ text => some text
      | .mapping _ es => do plainText? d fuel (← es.find? fun e => d.tagAt e.1 = .value).2
      | .sequence .. => none

end Document

/-- The bytes that a text writes in base64. -/
def readBytes (text : String) : Except Fault (List UInt8) :=
  if text.toList.all fun c => c.toNat < 128 then
    match base64? text.toList with
    | some bytes => .ok bytes
    | none => .error .unfit
  else .error .unfit

/-- The date or moment that a text writes. It must be the text of a scalar. -/
def readMoment (n : Node) (text : String) : Except Fault Datum :=
  match n with
  | .scalar .. =>
      match Stamp.read? (dropLineFeed text.toList) with
      | none => .error .notMoment
      | some stamp => stamp.datum.mapError .moment
  | _ => .error .notText

/-- The value of a node as a single value. A text may hold halves of characters; no other value
is written with one. -/
def Document.single (d : Document) (id : NodeId) : Except Fault Datum :=
  match d.plainText? (d.size + 1) id with
  | none => .error .unfit
  | some text =>
      let chars := text.replaced
      match d.tagAt id with
      | .null => .ok .null
      | .bool => (readTruth chars).map .bool
      | .int => (readWhole chars).map .whole
      | .float => (readReal chars).map .real
      | .binary => (readBytes chars).map .bytes
      | .moment => readMoment (d.node id) chars
      | .str => .ok (.text text)
      | _ => .error .unfit

/-! ### Collections -/

/-- What a **collection** holds, by the numbers of its nodes. -/
inductive Collection
  | list (items : List NodeId)
  | pairs (items : List Entry)
  | set (items : List NodeId)
  | record (fields : List Entry)

/-- Whether the collection is a record. -/
def Collection.isRecord : Collection → Bool
  | .record _ => true
  | _ => false

/-- The **value** of a node. -/
inductive Value
  | single (d : Datum)
  | collection (c : Collection)

/-- How far the values of a document are known. -/
structure Progress where
  document : Document
  /-- How many entries the document has. -/
  entryCount : Nat
  /-- The values of the nodes that have been met. Those of the collections that have not been
  filled are empty. -/
  values : Array (Option Value)
  /-- The collections that have been met and not been filled, the last one first. -/
  waiting : List NodeId

/-- **Finding** the values of a document. -/
abbrev Find (α : Type) : Type := StateT Progress (Except Fault) α

namespace Progress

/-- A document of which nothing is known. -/
def start (d : Document) : Progress :=
  ⟨d, d.entryCount, Array.replicate d.size none, []⟩

/-- The value of a node, if it is known. -/
def value? (s : Progress) (id : NodeId) : Option Value := s.values.getD id none

/-- Gives a node its value. -/
def give (s : Progress) (id : NodeId) (v : Value) : Progress :=
  { s with values := s.values.setIfInBounds id (some v) }

/-- Whether the value of a node is the one that is not a number, and is written as its own
word. -/
def isNan (s : Progress) (id : NodeId) : Bool :=
  s.document.tagAt id = .float &&
    match s.document.plainText? (s.document.size + 1) id with
    | some text => isNanWord text.replaced
    | none => false

/-- Whether two nodes are the same key: when they are one node, have the same value, or are
both written as the word for what is not a number. -/
def sameKey (s : Progress) (a b : NodeId) : Bool :=
  a == b || (s.isNan a && s.isNan b) ||
    match s.value? a, s.value? b with
    | some (.single x), some (.single y) => x.sameKey y
    | _, _ => false

/-- Fields with one more: a new key goes to the end, a known one keeps its place and takes
the new value. -/
def put (s : Progress) (key value : NodeId) : List Entry → List Entry
  | [] => [(key, value)]
  | (k, v) :: r => if s.sameKey k key then (k, value) :: r else (k, v) :: s.put key value r

end Progress

namespace Find

/-- Revises the document. -/
def revise {α : Type} (m : Revise α) : Find α := do
  let s ← get
  let (a, d) ← m.run s.document
  set { s with document := d }
  return a

/-- Meets a node: a single value is found at once, a collection waits to be filled. -/
def meet (id : NodeId) : Find Unit := do
  let s ← get
  if (s.value? id).isSome then return
  else if (s.document.tagAt id).isCollection then
    set { s.give id (.collection (.list [])) with waiting := id :: s.waiting }
  else
    set (s.give id (.single (← s.document.single id)))

/-- Meets a key, which must be a single value. -/
def meetKey (id : NodeId) : Find Unit := do
  meet id
  match (← get).value? id with
  | some (.single _) => return
  | _ => throw .unfit

/-- The fields that entries make up. -/
def fields : List Entry → List Entry → Find (List Entry)
  | fs, [] => return fs
  | fs, (k, v) :: r => do
      meetKey k
      meet v
      fields ((← get).put k v fs) r

/-- The fields of a mapping after it is flattened. -/
def fieldsOf (id : NodeId) : Find (List Entry) := do
  let es ← revise (Document.flatten (4 * (← get).entryCount + 4) id)
  fields [] es

/-- The key and the value of a mapping that has just one entry. -/
def pairOf (id : NodeId) : Find Entry := do
  match (← get).document.node id with
  | .mapping _ [(k, v)] =>
      meet k
      meet v
      return (k, v)
  | _ => throw .unfit

/-- What a collection holds. -/
def collection (id : NodeId) : Find Collection := do
  let n := (← get).document.node id
  match n.tag, n with
  | .seq, .sequence _ items =>
      items.forM meet
      return .list items
  | .omap, .sequence _ items | .pairs, .sequence _ items => return .pairs (← items.mapM pairOf)
  | .set, .mapping .. => return .set ((← fieldsOf id).map (·.1))
  | .map, .mapping .. => return .record (← fieldsOf id)
  | _, _ => throw .unfit

/-- Fills a collection that was met. -/
def fill (id : NodeId) : Find Unit := do
  let c ← collection id
  modify fun s => s.give id (.collection c)

/-- Fills all collections that are waiting, and those that are met by that. The number of
rounds is bounded by the number of nodes. -/
def fillAll : Nat → Find Unit
  | 0 => pure ()
  | fuel + 1 => do
      match (← get).waiting.reverse with
      | [] => pure ()
      | round =>
          modify fun s => { s with waiting := [] }
          round.forM fill
          fillAll fuel

end Find

/-- A collection with the values of what it holds. -/
def Collection.datum (part : NodeId → Datum) : Collection → Datum
  | .list items => .list (items.map part)
  | .pairs items => .list (items.map fun (k, v) => .tuple [part k, part v])
  | .set items => .setOf (items.map part)
  | .record fields => .record (fields.map fun (k, v) => (part k, part v))

namespace Progress

/-- The value of a node with all that it holds, where `around` are the collections that it is
inside of. There are no more of them than nodes, which bounds the depth. -/
def datum (s : Progress) : Nat → List NodeId → NodeId → Datum
  | 0, _, _ => .null
  | fuel + 1, around, id =>
      match s.value? id with
      | none => .null
      | some (.single d) => d
      | some (.collection c) =>
          if around.contains id then .again c.isRecord else c.datum (s.datum fuel (id :: around))

/-- The value of a node whose parts are values of their own: one that holds the node holds it
with all its parts. -/
def rootDatum (s : Progress) (id : NodeId) : Datum :=
  let part := s.datum (s.document.size + 1) []
  match s.value? id with
  | some (.collection c) => c.datum part
  | _ => part id

end Progress

/-- The **value of a node** in a document. -/
def Document.value (d : Document) (id : NodeId) : Except Fault Datum := do
  let ((), s) ← (do Find.meet id; Find.fillAll (d.size + 1) : Find Unit).run (.start d)
  return s.rootDatum id

/-- The **value that a text writes**, null when it writes none. -/
def read (text : String) : Except Fault Datum :=
  let cs := unifyLineEnds text.toList
  if !cs.all isAllowed then .error .unprintable
  else do
    match ← Document.read? cs with
    | none => .ok .null
    | some (d, id) => d.value id

end SheetFormula.Yaml
