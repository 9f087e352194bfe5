import SheetFormula.Decimal.Numeral
import SheetFormula.Text.Quoted

/-!
# YAML

A settings file is written in YAML 1.1. Its text is cut into tokens (`Yaml.Token`), these
are read as a document of nodes (`Yaml.Node`), and the nodes are given their values
(`Yaml.Value`), for which mappings take over the entries of others (`Yaml.Merge`). This module
holds what these steps share: the classes of characters, the faults, the tags that say what
kind of value a node stands for, and the document.
-/

namespace SheetFormula.Yaml

open Text Decimal

/-! ### Characters -/

/-- Whether the character may stand in a text at all. -/
def isAllowed (c : Char) : Bool :=
  let n := c.toNat
  n == 9 || n == 10 || n == 13 || (0x20 ≤ n && n ≤ 0x7e) || n == 0x85 ||
    (0xa0 ≤ n && n ≤ 0xd7ff) || (0xe000 ≤ n && n ≤ 0xfffd) || 0x10000 ≤ n

/-- Whether the character ends a line, in a text without carriage returns. -/
def isBreak (c : Char) : Bool :=
  c == '\n' || c == '\u0085' || c == '\u2028' || c == '\u2029'

/-- What a character that ends a line stands for inside a scalar. -/
def breakText (c : Char) : Char := if c == '\u0085' then '\n' else c

/-- Whether the character is a space or a tab. -/
def isSpace (c : Char) : Bool := c == ' ' || c == '\t'

/-- Whether the text is at its end, or at a character in the class. -/
def atEndOr (p : Char → Bool) : List Char → Bool
  | [] => true
  | c :: _ => p c

/-- Whether the text is at a character in the class. -/
def atChar (p : Char → Bool) : List Char → Bool
  | [] => false
  | c :: _ => p c

/-- Whether a word ends here: at a space, a tab or the end of a line. -/
def atBlank : List Char → Bool := atEndOr fun c => isSpace c || isBreak c

/-- Whether a word ends here where tabs are not taken as spaces. -/
def atGap : List Char → Bool := atEndOr fun c => c == ' ' || isBreak c

/-- Whether a line ends here. -/
def atLineEnd : List Char → Bool := atEndOr isBreak

/-- Whether a line that begins here is the given marker of a document. -/
def atMarkerOf (mark : Char) : List Char → Bool
  | a :: b :: c :: r => a == mark && b == mark && c == mark && atBlank r
  | _ => false

/-- Whether a line that begins here is a marker between documents. -/
def atMarker (cs : List Char) : Bool := atMarkerOf '-' cs || atMarkerOf '.' cs

/-- Whether the character may stand in the name of an anchor, a handle or a directive. -/
def isNameChar (c : Char) : Bool := c.isAlphanum || c == '-' || c == '_'

/-! ### Faults -/

/-- Why a moment does not exist. -/
inductive MomentFault
  | year (n : Nat)
  | month
  | day
  | hour
  | minute
  | second
  /-- The distance of the clock from universal time is a day or more. -/
  | offset (shown : String)
  deriving DecidableEq, Repr

/-- The text of such a fault. -/
def MomentFault.message : MomentFault → String
  | .year n => "year " ++ intText n ++ " is out of range"
  | .month => "month must be in 1..12"
  | .day => "day is out of range for month"
  | .hour => "hour must be in 0..23"
  | .minute => "minute must be in 0..59"
  | .second => "second must be in 0..59"
  | .offset shown =>
      "offset must be a timedelta strictly between -timedelta(hours=24) and " ++
        "timedelta(hours=24), not " ++ shown ++ "."

/-- Why a text stands for no value. -/
inductive Fault
  /-- A character that may not stand in a text. -/
  | unprintable
  /-- Characters that are no token. -/
  | lexical
  /-- Tokens that are no document. -/
  | grammatical
  /-- A name that is not known or known already, or a second document. -/
  | naming
  /-- A node whose tag does not fit it, or a key that cannot be one. -/
  | unfit
  /-- A text that is tagged as a truth value and is none. -/
  | notTruth
  /-- A text that is tagged as a moment and is none. -/
  | notMoment
  /-- A record that is tagged as a moment. -/
  | notText
  /-- A text without characters that is tagged as a number. -/
  | empty
  /-- A text that is no integer in the base. -/
  | notWhole (base : Nat) (text : String)
  | notReal (text : String)
  /-- An integer of more digits than are read. -/
  | tooLong (digits : Nat)
  /-- A moment that does not exist. -/
  | moment (f : MomentFault)
  /-- The number of a character beyond all characters. -/
  | noCharacter
  /-- A number beyond the ones that can be dealt with here. -/
  | tooWide
  deriving DecidableEq, Repr

/-- The **message** of a fault, as far as it has one of its own. -/
def Fault.message? : Fault → Option String
  | .empty => some "string index out of range"
  | .notWhole base text =>
      some ("invalid literal for int() with base " ++ intText base ++ ": " ++
        (quoted text).take 200)
  | .notReal text => some ("could not convert string to float: " ++ quoted text)
  | .tooLong digits =>
      some ("Exceeds the limit (4300 digits) for integer string conversion: value has " ++
        intText digits ++
        " digits; use sys.set_int_max_str_digits() to increase the limit")
  | .moment f => some f.message
  | .noCharacter => some "chr() arg not in range(0x110000)"
  | _ => none

/-- Whether the fault lies in a value that was written in a wrong form, and not in the form
of the whole text. -/
def Fault.isValue : Fault → Bool
  | .notWhole .. | .notReal _ | .tooLong _ | .moment _ | .noCharacter => true
  | _ => false

/-! ### Tags -/

/-- The **kind of value** that a node is to stand for. -/
inductive Tag
  | null
  | bool
  | int
  | float
  | binary
  | moment
  | str
  | seq
  | map
  | set
  | omap
  | pairs
  /-- The key under which a mapping takes over the entries of others. -/
  | merge
  /-- The key of the plain value of a mapping. -/
  | value
  /-- Any tag that is not known. -/
  | other
  deriving DecidableEq, Repr

/-- The beginning of the names of all known tags. -/
def Tag.base : String := "tag:yaml.org,2002:"

/-- The names of the known tags. -/
def Tag.names : List (String × Tag) :=
  [("null", .null), ("bool", .bool), ("int", .int), ("float", .float), ("binary", .binary),
    ("timestamp", .moment), ("str", .str), ("seq", .seq), ("map", .map), ("set", .set),
    ("omap", .omap), ("pairs", .pairs), ("merge", .merge), ("value", .value)]

/-- The tag with the full name. -/
def Tag.ofName (name : String) : Tag :=
  match Tag.names.find? fun t => Tag.base ++ t.1 == name with
  | some (_, tag) => tag
  | none => .other

/-- Whether a node with the tag stands for a collection, which cannot be a key. -/
def Tag.isCollection : Tag → Bool
  | .seq | .map | .set | .omap | .pairs => true
  | _ => false

/-! ### Documents -/

/-- The **number** of a node in its document. -/
abbrev NodeId : Type := Nat

/-- A **node**: a scalar, a sequence of nodes or a mapping of nodes to nodes, which are given
by their numbers. -/
inductive Node
  | scalar (tag : Tag) (text : LooseText)
  | sequence (tag : Tag) (items : List NodeId)
  | mapping (tag : Tag) (entries : List (NodeId × NodeId))

/-- The node that is left out. -/
def Node.absent : Node := .scalar .null (.whole "")

/-- The tag of a node. -/
def Node.tag : Node → Tag
  | .scalar tag _ | .sequence tag _ | .mapping tag _ => tag

/-- A **document**: its nodes in the order of their numbers. An alias is the number of the
node that it stands for, so a node may be a part of several nodes, and of itself. -/
abbrev Document : Type := Array Node

namespace Document

/-- The node with a number. -/
def node (d : Document) (id : NodeId) : Node := d.getD id .absent

/-- The document with another node under a number. -/
def put (d : Document) (id : NodeId) (n : Node) : Document := d.setIfInBounds id n

end Document

end SheetFormula.Yaml
