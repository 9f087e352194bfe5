import SheetFormula.Yaml.Basic

/-!
# Merging Mappings

A mapping takes over the entries of other mappings with merge keys. `Document.flatten` puts
these entries in front of its own, where a key that comes again wins, and leaves no merge
key behind. The mappings that are taken over are flattened before, for good: whatever else
they are a part of has them without their merge keys, too.

A merge key is taken out before what it names is looked at, so a mapping that merges itself
comes to an end.
-/

namespace SheetFormula.Yaml

/-- A key and its value. -/
abbrev Entry : Type := NodeId × NodeId

namespace Node

/-- The keys and values of a mapping. -/
def entries : Node → List Entry
  | .mapping _ es => es
  | _ => []

/-- Whether the node is a mapping. -/
def isMapping : Node → Bool
  | .mapping .. => true
  | _ => false

/-- A mapping with other entries. -/
def withEntries (es : List Entry) : Node → Node
  | .mapping tag _ => .mapping tag es
  | n => n

/-- A node with another tag. -/
def withTag (tag : Tag) : Node → Node
  | .scalar _ text => .scalar tag text
  | .sequence _ items => .sequence tag items
  | .mapping _ es => .mapping tag es

end Node

/-- **Revising** a document. -/
abbrev Revise (α : Type) : Type := StateT Document (Except Fault) α

namespace Document

/-- How many keys all mappings of a document have. -/
def entryCount (d : Document) : Nat := d.foldl (fun n node => n + node.entries.length) 0

/-- The tag of the node with a number. -/
def tagAt (d : Document) (id : NodeId) : Tag := (d.node id).tag

/-- What the first merge key of a mapping names, and the document without that key. -/
def takeMerge? (d : Document) (id : NodeId) : Option (NodeId × Document) :=
  let n := d.node id
  let isMerge : Entry → Bool := fun e => d.tagAt e.1 = .merge
  (n.entries.find? isMerge).map fun e => (e.2, d.put id (n.withEntries (n.entries.eraseP isMerge)))

/-- The document in which the keys of the plain value, among those of a mapping, are texts. -/
def nameValues (d : Document) (id : NodeId) : Document :=
  (d.node id).entries.foldl (fun d (k, _) =>
    if d.tagAt k = .value then d.put k ((d.node k).withTag .str) else d) d

mutual

/-- **Flattens** a mapping, and gives its entries. The first argument bounds the depth; four
times the number of entries in the document and four more are always enough. -/
def flatten : Nat → NodeId → Revise (List Entry)
  | 0, _ => throw .unfit
  | fuel + 1, id => do
      let taken ← mergedBy fuel id
      modify fun d => d.nameValues id
      let n := (← get).node id
      let es := taken ++ n.entries
      modify fun d => d.put id (n.withEntries es)
      return es

/-- The entries that the merge keys of a mapping take over. -/
def mergedBy : Nat → NodeId → Revise (List Entry)
  | 0, _ => throw .unfit
  | fuel + 1, id => do
      match (← get).takeMerge? id with
      | none => return []
      | some (named, d) =>
          set d
          let es ← sharedBy fuel named
          return es ++ (← mergedBy fuel id)

/-- The entries that a merge key takes over from what it names: a mapping, or a sequence of
mappings. Of several mappings the first one comes last, so that its entries win. -/
def sharedBy : Nat → NodeId → Revise (List Entry)
  | 0, _ => throw .unfit
  | fuel + 1, id => do
      match (← get).node id with
      | .mapping .. => flatten fuel id
      | .sequence _ items =>
          let parts ← items.mapM fun item => do
            if ((← get).node item).isMapping then flatten fuel item else throw .unfit
          return parts.reverse.flatten
      | .scalar .. => throw .unfit

end

end Document

end SheetFormula.Yaml
