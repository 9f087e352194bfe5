import SheetFormula.Proofs.BoundedRecords

/-!
# Cutting a Context

A context is a record, with records inside it, and a text is cut wherever it is the value of a name
in one of these. The values are reached by paths of names, and cutting changes no path: the same
paths lead to values before and after, and a record keeps its names in their order. Of the values,
only texts beyond the limit change. What stands in a list is reached by no path of names and is left
as it is.

A text that was cut is beyond the limit again, because of the mark. To cut it once more takes the
mark away and puts it back.

## Main results

* `Event.cutText_cutText`: a text that was cut is not changed by cutting it again.
* `Event.at?_redactValue`: what a path of names leads to after the long texts were cut.
* `Event.cutFrom_redact`: **cutting a context twice is cutting it once**, and what it does to every
  name and value.
-/

namespace SheetFormula

namespace Json

/-! ### Paths of names -/

/-- The value that a **path of names** leads to, through records inside records. -/
def at? : Json → List String → Option Json
  | j, [] => some j
  | j, name :: path => (j.field? name).bind fun v => at? v path

/-- The **names** of a record in their order, none for any other value. -/
def names? (j : Json) : Option (List String) := j.fields?.map (·.map Prod.fst)

end Json

namespace Event

open Json (at? names?)

/-! ### Cutting twice -/

/-- A text within the limit is not cut. -/
theorem cutText_of_le {s : String} (h : s.length ≤ textLimit) : cutText s = s :=
  if_neg (Nat.not_lt.mpr h)

/-- A longer text is cut at the limit and marked. -/
theorem cutText_of_lt {s : String} (h : textLimit < s.length) :
    cutText s = String.ofList (s.toList.take textLimit) ++ cutMark :=
  if_pos h

/-- A text that was cut is **not changed by cutting it again**, although it is beyond the limit. -/
theorem cutText_cutText (s : String) : cutText (cutText s) = cutText s := by
  obtain hshort | hlong := le_or_gt s.length textLimit
  · rw [cutText_of_le hshort, cutText_of_le hshort]
  · have hhead : (s.toList.take textLimit).length = textLimit := by
      rw [List.length_take, String.length_toList]
      exact Nat.min_eq_left hlong.le
    have hagain : textLimit < (String.ofList (s.toList.take textLimit) ++ cutMark).length := by
      rw [String.length_append, String.length_ofList, hhead]
      exact Nat.lt_add_of_pos_right (by decide)
    rw [cutText_of_lt hlong, cutText_of_lt hagain, String.toList_append, String.toList_ofList,
      List.take_append_of_le_length hhead.ge, List.take_take, Nat.min_self]

/-- What was cut is not cut again. -/
theorem redactValue_redactValue (j : Json) : redactValue (redactValue j) = redactValue j := by
  induction j using Json.induction with
  | null | bool | whole | real | list => rfl
  | text s => rw [redactValue, redactValue, cutText_cutText]
  | record fields ih =>
      rw [redactValue, redactValue, redact_eq_map, redact_eq_map, List.map_map]
      refine congrArg Json.record (List.map_congr_left fun f hf => ?_)
      exact congrArg (f.1, ·) (ih f hf)

/-! ### The shape of a context -/

/-- The value of a field is cut by itself. -/
theorem field?_redactValue (j : Json) (name : String) :
    (redactValue j).field? name = (j.field? name).map redactValue := by
  cases j with
  | record fields => rw [redactValue, redact_eq_map, Json.field?, Json.field?, Json.lookup_map]
  | _ => rfl

/-- A path of names **leads to the value that it led to**, with its long texts cut. -/
theorem at?_redactValue (j : Json) (path : List String) :
    (redactValue j).at? path = (j.at? path).map redactValue := by
  induction path generalizing j with
  | nil => rfl
  | cons name path ih =>
      rw [at?, at?, field?_redactValue, Option.bind_map, Option.map_bind]
      exact congrArg (j.field? name).bind (funext ih)

/-- The names of a record stay. -/
theorem names?_redactValue (j : Json) : (redactValue j).names? = j.names? := by
  cases j with
  | record fields =>
      rw [redactValue, redact_eq_map, names?, names?, Json.fields?, Json.fields?, Option.map_some,
        Option.map_some, List.map_map]
      rfl
  | _ => rfl

/-- A context is another one **with its long texts cut**. -/
structure CutFrom (c d : List (String × Json)) : Prop where
  /-- At the end of each path there are the same names, or no record in both. -/
  names : ∀ path, ((Json.record d).at? path).bind names? = ((Json.record c).at? path).bind names?
  /-- No path leads further than it did. -/
  nowhere : ∀ path, (Json.record c).at? path = none → (Json.record d).at? path = none
  /-- A text of at most 256 characters is kept. -/
  short : ∀ path s, (Json.record c).at? path = some (.text s) → s.length ≤ 256 →
    (Json.record d).at? path = some (.text s)
  /-- Of a longer one the first 256 characters are kept, with the mark behind them. -/
  long : ∀ path s, (Json.record c).at? path = some (.text s) → 256 < s.length →
    (Json.record d).at? path =
      some (.text (String.ofList (s.toList.take 256) ++ "...[truncated]"))
  /-- What is neither a text nor a record is kept. -/
  other : ∀ path j, (Json.record c).at? path = some j → j.text? = none → j.fields? = none →
    (Json.record d).at? path = some j

/-- **Cutting a context twice is cutting it once.** It keeps the names of all records and the
values that are no texts, and cuts the texts of more than 256 characters. -/
theorem cutFrom_redact (c : List (String × Json)) :
    redact (redact c) = redact c ∧ CutFrom c (redact c) := by
  have hat (path : List String) :
      (Json.record (redact c)).at? path = ((Json.record c).at? path).map redactValue :=
    at?_redactValue (.record c) path
  have hvalue {path : List String} {j : Json} (h : (Json.record c).at? path = some j) :
      (Json.record (redact c)).at? path = some (redactValue j) := by rw [hat, h, Option.map_some]
  refine ⟨Json.record.inj (redactValue_redactValue (.record c)), ?_, ?_, ?_, ?_, ?_⟩
  · intro path
    rw [hat, Option.bind_map]
    exact congrArg ((Json.record c).at? path).bind (funext names?_redactValue)
  · intro path h
    rw [hat, h, Option.map_none]
  · intro path s h hs
    rw [hvalue h, redactValue, cutText_of_le hs]
  · intro path s h hs
    rw [hvalue h, redactValue, cutText_of_lt hs]
    rfl
  · intro path j h htext hrecord
    rw [hvalue h]
    cases j with
    | text s => cases htext
    | record fields => cases hrecord
    | _ => rfl

end Event

end SheetFormula
