/-!
# Functions

The functions that a formula can call, with the numbers of arguments they take. A function
is named in any mixture of capital and small letters.
-/

namespace SheetFormula

/-- The **functions** of formulas. -/
inductive Function
  | sin
  | cos
  | pow
  | max
  | min
  deriving DecidableEq, Repr

namespace Function

/-- All functions. -/
def all : List Function := [.sin, .cos, .pow, .max, .min]

/-- The name of a function in small letters. -/
def label : Function → String
  | .sin => "sin"
  | .cos => "cos"
  | .pow => "pow"
  | .max => "max"
  | .min => "min"

/-- The name of a function in capital letters. -/
def name : Function → String
  | .sin => "SIN"
  | .cos => "COS"
  | .pow => "POW"
  | .max => "MAX"
  | .min => "MIN"

/-- The function with the given name in letters of any case. Beside the ASCII letters no
letter has one of the letters of these names as its small form. -/
def ofName? (name : String) : Option Function :=
  all.find? fun f => f.label.toList == name.toList.map Char.toLower

/-- The least number of arguments. -/
def minArgs : Function → Nat
  | .pow => 2
  | _ => 1

/-- The greatest number of arguments, none when there is no bound. -/
def maxArgs : Function → Option Nat
  | .sin | .cos => some 1
  | .pow => some 2
  | .max | .min => none

/-- The number of arguments in words. -/
def arityText (f : Function) : String :=
  match f.maxArgs with
  | none => "at least " ++ toString f.minArgs
  | some n =>
      if f.minArgs = n then "exactly " ++ toString n
      else toString f.minArgs ++ "-" ++ toString n

/-- Whether the function takes `count` arguments. -/
def takes (f : Function) (count : Int) : Bool :=
  f.minArgs ≤ count && (match f.maxArgs with
    | none => true
    | some n => count ≤ n)

/-- A number of arguments that a function takes lies between its bounds. -/
theorem takes_iff {g : Function} {n : Nat} :
    g.takes n = true ↔ g.minArgs ≤ n ∧ ∀ m ∈ g.maxArgs, n ≤ m := by
  rw [takes, Bool.and_eq_true, decide_eq_true_eq, Int.ofNat_le]
  refine and_congr_right fun _ => ?_
  cases g.maxArgs with
  | none => simp
  | some m => simp

/-- Every function takes an argument. -/
theorem one_le_minArgs (g : Function) : 1 ≤ g.minArgs := by
  cases g <;> decide

/-- Every function takes a first argument. -/
theorem eq_cons_of_takes {g : Function} {α : Type} {xs : List α}
    (h : g.takes xs.length = true) : ∃ x r, xs = x :: r := by
  obtain ⟨hmin, -⟩ := takes_iff.mp h
  exact List.exists_cons_of_length_pos (Nat.le_trans g.one_le_minArgs hmin)

/-- A function of at most one argument takes one. -/
theorem eq_singleton_of_takes {g : Function} (hg : g.maxArgs = some 1) {α : Type}
    {xs : List α} (h : g.takes xs.length = true) : ∃ x, xs = [x] := by
  obtain ⟨hmin, hmax⟩ := takes_iff.mp h
  have hpos := Nat.le_trans g.one_le_minArgs hmin
  exact List.length_eq_one_iff.mp (Nat.le_antisymm (hmax 1 hg) hpos)

/-- A power takes a base and an exponent. -/
theorem eq_pair_of_takes {α : Type} {xs : List α} (h : pow.takes xs.length = true) :
    ∃ x y, xs = [x, y] := by
  obtain ⟨hmin, hmax⟩ := takes_iff.mp h
  have hle := hmax 2 rfl
  match xs, hmin, hle with
  | [x, y], _, _ => exact ⟨x, y, rfl⟩

/-- Every function is found by its label. -/
theorem ofName?_label (f : Function) : ofName? f.label = some f := by
  cases f <;> decide

/-- Every function is found by the name that it has in a formula. -/
theorem ofName?_name (f : Function) : ofName? f.name = some f := by
  cases f <;> decide

end Function

end SheetFormula
