/-!
# Likeness of Words

How much two words have in common: the longest run of characters that occurs in both is
taken, and what is left of it and right of it on both sides is compared in the same way. The
number of characters found so, counted in both words, is put in proportion to the length of
both.
-/

namespace SheetFormula.Text

/-- The length of the common beginning of two lists. -/
def commonLength : List Char → List Char → Nat
  | a :: r, b :: s => if a = b then commonLength r s + 1 else 0
  | _, _ => 0

/-- A run that two lists have in common: where it begins in each of them, and its length. -/
structure CommonRun where
  left : Nat
  right : Nat
  length : Nat

/-- The longest run that two lists have in common. Of several it is the one that begins first
in the left list, and of those the one that begins first in the right list. -/
def longestRun (as bs : List Char) : CommonRun :=
  let starts := (List.range as.length).flatMap fun i =>
    (List.range bs.length).map fun j => (i, j)
  starts.foldl (fun best (i, j) =>
    let n := commonLength (as.drop i) (bs.drop j)
    if best.length < n then ⟨i, j, n⟩ else best) ⟨0, 0, 0⟩

/-- The number of characters that two lists have in common. The first argument bounds the
number of runs; the length of one of the lists is always enough. -/
def commonCount : Nat → List Char → List Char → Nat
  | 0, _, _ => 0
  | fuel + 1, as, bs =>
      let run := longestRun as bs
      if run.length = 0 then 0
      else run.length + commonCount fuel (as.take run.left) (bs.take run.right) +
        commonCount fuel (as.drop (run.left + run.length)) (bs.drop (run.right + run.length))

/-- How much two words have in common, in characters, and the length of both. -/
def likeness (a b : String) : Nat × Nat :=
  (2 * commonCount a.length a.toList b.toList, a.length + b.length)

/-- Whether two words are alike: they have three fifths in common. -/
def isAlike (a b : String) : Bool :=
  let (common, length) := likeness a b
  3 * length ≤ 5 * common

/-- Whether the first word comes before the second one when words are put in order by their
likeness to a third one: it is more alike, or it is as alike and greater. -/
def isNearer (word a b : String) : Bool :=
  let (m, k) := likeness a word
  let (n, l) := likeness b word
  n * k < m * l || (n * k == m * l && b < a)

/-- The words that are **nearest** to a word: those that are alike, at most three. -/
def nearest (word : String) (words : List String) : List String :=
  ((words.filter (isAlike · word)).mergeSort fun a b => isNearer word a b || a == b).take 3

example : likeness "--bount" "--count" = (12, 14) := by decide +kernel

end SheetFormula.Text
