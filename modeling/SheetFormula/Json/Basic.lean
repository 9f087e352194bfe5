import SheetFormula.Text.Loose

/-!
# Data of the Log

The values that a log line can hold: null, truth values, numbers, texts, lists, and records
of named fields. The fields of a record are kept in the order in which they were first
named, and each name occurs once.

What is written has texts of characters. What is read may have loose texts, since halves of
characters can be written one by one.
-/

namespace SheetFormula

/-- A value in **JSON**, with texts of the type `τ`. -/
inductive Json (τ : Type := String)
  | null
  | bool (b : Bool)
  | whole (i : Int)
  | real (x : Float)
  | text (s : τ)
  | list (items : List (Json τ))
  | record (fields : List (τ × Json τ))
  deriving Inhabited

namespace Json

variable {τ σ : Type}

/-- The fields of a record, none for any other value. -/
def fields? : Json τ → Option (List (τ × Json τ))
  | .record fields => some fields
  | _ => none

/-- The value of a field among named values. -/
def lookup [DecidableEq τ] (name : τ) (fields : List (τ × Json τ)) : Option (Json τ) :=
  (fields.find? (·.1 == name)).map (·.2)

/-- The value of a field of a record. -/
def field? [DecidableEq τ] (name : τ) : Json τ → Option (Json τ)
  | .record fields => lookup name fields
  | _ => none

/-- Named values with one more: a new name goes to the end, a known one keeps its place and
takes the new value. -/
def put [DecidableEq τ] (name : τ) (value : Json τ) : List (τ × Json τ) → List (τ × Json τ)
  | [] => [(name, value)]
  | (n, v) :: r => if n = name then (n, value) :: r else (n, v) :: put name value r

/-- The text of a text value. -/
def text? : Json τ → Option τ
  | .text s => some s
  | _ => none

/-- Whether the value counts as true: null, zero and what is empty do not. -/
def truthyBy (isEmpty : τ → Bool) : Json τ → Bool
  | .null => false
  | .bool b => b
  | .whole i => i != 0
  | .real x => x != 0
  | .text s => !isEmpty s
  | .list items => !items.isEmpty
  | .record fields => !fields.isEmpty

/-- Whether a value with texts of characters counts as true. -/
def truthy : Json → Bool := truthyBy String.isEmpty

mutual

/-- A value with its texts and names replaced. -/
def map (f : τ → σ) : Json τ → Json σ
  | .null => .null
  | .bool b => .bool b
  | .whole i => .whole i
  | .real x => .real x
  | .text s => .text (f s)
  | .list items => .list (mapList f items)
  | .record fields => .record (mapFields f fields)

def mapList (f : τ → σ) : List (Json τ) → List (Json σ)
  | [] => []
  | j :: r => map f j :: mapList f r

def mapFields (f : τ → σ) : List (τ × Json τ) → List (σ × Json σ)
  | [] => []
  | (name, j) :: r => (f name, map f j) :: mapFields f r

end

/-- The items of a list are replaced one by one. -/
theorem mapList_eq_map (f : τ → σ) (items : List (Json τ)) :
    mapList f items = items.map (map f) := by
  induction items with
  | nil => rfl
  | cons j r ih => rw [mapList, ih, List.map_cons]

/-- The fields of a record are replaced one by one. -/
theorem mapFields_eq_map (f : τ → σ) (fields : List (τ × Json τ)) :
    mapFields f fields = fields.map fun (name, j) => (f name, map f j) := by
  induction fields with
  | nil => rfl
  | cons field r ih => rw [mapFields, ih, List.map_cons]

/-- A value **as it is read**: its texts are among the loose ones. -/
def loose : Json → Json LooseText := map .whole

/-- Named values as they are read. -/
def looseFields (fields : List (String × Json)) : List (LooseText × Json LooseText) :=
  fields.map fun (name, j) => (.whole name, j.loose)

/-- A list is read item by item. -/
theorem loose_list (items : List Json) : (list items).loose = .list (items.map loose) :=
  congrArg list (mapList_eq_map LooseText.whole items)

/-- A record is read field by field. -/
theorem loose_record (fields : List (String × Json)) :
    (record fields).loose = .record (looseFields fields) :=
  congrArg record (mapFields_eq_map LooseText.whole fields)

end Json

end SheetFormula
