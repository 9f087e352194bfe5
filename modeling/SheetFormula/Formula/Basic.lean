import SheetFormula.Decimal.Layout
import SheetFormula.Function.Basic

/-!
# Formulas

A formula as a tree: leaves, binary operations and calls of functions. The type of the
leaves is a parameter; in a formula that was read from a text they are doubles, and a cell
reference is the double that its cell held when the text was read.

## Main definitions

* `Formula.text`: the formula as text again, with parentheses around each operation.
* `Formula.same`: equality by value, with the digest `Formula.digest` that equal formulas
  share.
-/

namespace SheetFormula

/-- A **formula** with leaves in `α`. The operator of a binary operation may be any text;
four of them have a meaning. -/
inductive Formula (α : Type)
  | leaf (value : α)
  | binary (operator : String) (left right : Formula α)
  | call (function : Function) (args : List (Formula α))
  deriving Repr, Inhabited

namespace Formula

variable {α : Type}

mutual

/-- The leaves of a formula from left to right. -/
def leaves : Formula α → List α
  | .leaf a => [a]
  | .binary _ l r => leaves l ++ leaves r
  | .call _ args => leavesList args

def leavesList : List (Formula α) → List α
  | [] => []
  | f :: r => leaves f ++ leavesList r

end

mutual

/-- A formula as text, when `leafText` gives the texts of the leaves: each operation between
parentheses with a space on both sides of the operator, each call with a comma and a space
between arguments. -/
def render (leafText : α → String) : Formula α → String
  | .leaf a => leafText a
  | .binary operator l r =>
      "(" ++ render leafText l ++ " " ++ operator ++ " " ++ render leafText r ++ ")"
  | .call f args => f.name ++ "(" ++ ", ".intercalate (renderList leafText args) ++ ")"

def renderList (leafText : α → String) : List (Formula α) → List String
  | [] => []
  | f :: r => render leafText f :: renderList leafText r

end

/-- The text of a number in a formula: at most fifteen significant digits. -/
def numberText (x : Float) : String := (Decimal.Layout.general 15).text x

/-- The **text** of a formula. -/
def text (f : Formula Float) : String := f.render numberText

mutual

/-- Whether two formulas have the same shape, operators and functions, and leaves that
`eq` relates. -/
def sameBy (eq : α → α → Bool) : Formula α → Formula α → Bool
  | .leaf a, .leaf b => eq a b
  | .binary o l r, .binary o' l' r' => o == o' && sameBy eq l l' && sameBy eq r r'
  | .call f args, .call f' args' => f == f' && sameListBy eq args args'
  | _, _ => false

def sameListBy (eq : α → α → Bool) : List (Formula α) → List (Formula α) → Bool
  | [], [] => true
  | f :: r, g :: s => sameBy eq f g && sameListBy eq r s
  | _, _ => false

end

/-- Whether two formulas are **equal by value**. -/
def same (f g : Formula Float) : Bool := f.sameBy (· == ·) g

/-- Whether a formula is equal to itself as one object. A call is, as its arguments are the
same objects; other nodes compare the values below them, and what is not a number differs
from itself. -/
def sameItself (eq : α → Bool) : Formula α → Bool
  | .leaf a => eq a
  | .binary _ l r => sameItself eq l && sameItself eq r
  | .call _ _ => true

/-- Whether two objects that are formulas are **equal**: one object is compared with itself, and
two by value. -/
def equalAt {ι : Type} [DecidableEq ι] (tree : ι → Formula Float) (i j : ι) : Bool :=
  if i = j then (tree i).sameItself (fun x => x == x) else (tree i).same (tree j)

/-- The key of a double in a digest. The two zeros, which are equal, have one key. -/
def floatKey (x : Float) : UInt64 := if x == 0 then 0 else x.toBits

mutual

/-- A **digest** of a formula. -/
def digest : Formula Float → UInt64
  | .leaf x => mixHash 1 (floatKey x)
  | .binary operator l r => mixHash (mixHash 2 (hash operator)) (mixHash (digest l) (digest r))
  | .call f args => mixHash (mixHash 3 (hash f.label)) (digestList args)

def digestList : List (Formula Float) → UInt64
  | [] => 4
  | f :: r => mixHash (digest f) (digestList r)

end

/-- Operations one after another, each with the result so far on its left side. -/
def joinLeft (first : Formula α) (rest : List (String × Formula α)) : Formula α :=
  rest.foldl (fun left p => .binary p.1 left p.2) first

end Formula

end SheetFormula
