import SheetFormula.Json.Basic
import SheetFormula.Number

/-!
# Equality of JSON Values

Two values are equal when they mean the same: numbers and truth values by their numeric
value, lists item by item, and records field by field in whatever order.
-/

namespace SheetFormula.Json

variable {τ : Type}

/-- The number that a value stands for, where truth values count as zero and one. -/
def number? : Json τ → Option Number
  | .bool b => some (.whole (if b then 1 else 0))
  | .whole i => some (.whole i)
  | .real x => some (.real x)
  | _ => none

mutual

/-- Whether two values are **equal**. -/
def same [DecidableEq τ] : Json τ → Json τ → Bool
  | .null, .null => true
  | .text s, .text t => s == t
  | .list xs, .list ys => sameList xs ys
  | .record f, .record g => f.length == g.length && sameFields f g
  | a, b =>
      match number? a, number? b with
      | some m, some n => m.same n
      | _, _ => false

def sameList [DecidableEq τ] : List (Json τ) → List (Json τ) → Bool
  | [], [] => true
  | x :: r, y :: s => same x y && sameList r s
  | _, _ => false

def sameFields [DecidableEq τ] : List (τ × Json τ) → List (τ × Json τ) → Bool
  | [], _ => true
  | (name, v) :: r, g =>
      (match lookup name g with
        | some w => same v w
        | none => false) && sameFields r g

end

end SheetFormula.Json
