import SheetFormula.Datum

/-!
# Kinds of Values

Every value is of a kind. A kind may be a special case of another one, as truth values are
numbers, and in the end all of them are special cases of one kind.
-/

namespace SheetFormula.Datum

/-- The **kind** of a value. -/
inductive Kind
  /-- The kind of which all others are special cases. -/
  | any
  | null
  | bool
  | whole
  | real
  | text
  | date
  | moment
  | bytes
  | list
  | tuple
  | set
  | record
  /-- The kind of the kinds. -/
  | kind
  deriving DecidableEq, Repr

namespace Kind

/-- The **name** of a kind. -/
def name : Kind → String
  | .any => "object"
  | .null => "NoneType"
  | .bool => "bool"
  | .whole => "int"
  | .real => "float"
  | .text => "str"
  | .date => "date"
  | .moment => "datetime"
  | .bytes => "bytes"
  | .list => "list"
  | .tuple => "tuple"
  | .set => "set"
  | .record => "dict"
  | .kind => "type"

/-- The name of the group that a kind belongs to. -/
def group : Kind → String
  | .date | .moment => "datetime"
  | _ => "builtins"

/-- A kind as it is shown. Only the kinds of dates and moments are named with their group. -/
def shown (k : Kind) : String :=
  "<class '" ++ (if k.group = "builtins" then "" else k.group ++ ".") ++ k.name ++ "'>"

/-- The kind of which a kind is a special case. -/
def above? : Kind → Option Kind
  | .any => none
  | .bool => some .whole
  | .moment => some .date
  | _ => some .any

/-- A kind and those of which it is a special case, step by step. -/
def lineage : Kind → List Kind
  | .any => [.any]
  | .bool => [.bool, .whole, .any]
  | .moment => [.moment, .date, .any]
  | k => [k, .any]

end Kind

/-- The **kind of a value**. -/
def kind : Datum → Kind
  | .null => .null
  | .bool _ => .bool
  | .whole _ => .whole
  | .real _ => .real
  | .text _ => .text
  | .date _ => .date
  | .moment _ => .moment
  | .bytes _ => .bytes
  | .list _ => .list
  | .tuple _ => .tuple
  | .set _ => .set
  | .record _ => .record
  | .again isRecord => if isRecord then .record else .list

end SheetFormula.Datum
