import SheetFormula.Proofs.Locality

/-!
# The Two Kinds of Sheets

Rows of values become a frame, which keeps texts and fills short rows up, or a sparse sheet,
which lists the addresses of the values that are not null. A frame looks at both bounds before
it reads, a sparse sheet just looks an address up. Still no formula can tell one from the
other: at every address both have the same raw value, null where there is none.

Rows are made into a frame whenever one of them is not empty, or there are none at all, each value
has a text, and the columns have names. The only values without a text are integers of too many
digits. The names are characters one after another, which come to an end: behind 55,232 columns they
are halves of characters, and 1,114,048 columns take the last one.

## Main results

* `Frame.columnNames?_cases`: how many columns have names.
* `Frame.ofRows_cases`: which rows become a frame, and which frame.
* `Rows.valueAt_frame`, `Rows.ListedBy.valueAt_sparse`: the raw value at each address, in both
  kinds.
* `Computation.parse_frame_eq_parse_sparse`: **the two kinds agree** on every formula.
* `Computation.not_ofRows_wide`: a row that is too wide for a frame.
-/

namespace SheetFormula

/-! ### Cells of rows -/

namespace Rows

/-- A value that is neither null nor has a text. -/
def Unwritable (v : Json) : Prop := v ≠ .null ∧ (Datum.ofJson v).text? = none

/-- The text of a value that is not null. -/
def text? : Json → Option String
  | .null => none
  | v => (Datum.ofJson v).text?

/-- The text at an address, when there is a value other than null. -/
def textAt? (rows : List (List Json)) (a : Address) : Option String := do
  let row ← Grid.item? rows a.row
  let v ← Grid.item? row a.column
  text? v

/-- The raw value that the text of a cell is, null for no text. -/
def rawOf : Option String → Json
  | some s => .text s
  | none => .null

/-- A table of cells **lists** rows when its entries are the texts of the values that are not
null, each at its address. -/
def ListedBy (rows : List (List Json)) (cells : List (Address × Json)) : Prop :=
  ∀ a v, (a, v) ∈ cells ↔ ∃ s, textAt? rows a = some s ∧ v = .text s

/-- The table of the values that are not null, row by row. -/
def cellsOf (rows : List (List Json)) : List (Address × Json) :=
  rows.zipIdx.flatMap fun (row, i) =>
    row.zipIdx.filterMap fun (v, j) => (text? v).map fun s => (⟨i, j⟩, .text s)

/-- The text of a cell that is not empty is that of its value. -/
theorem text?_of_ne_null {v : Json} (h : v ≠ .null) : text? v = (Datum.ofJson v).text? := by
  cases v with
  | null => exact absurd rfl h
  | _ => rfl

/-! ### Items of lists -/

/-- An item is found when the index counts from the front and is within the list. -/
theorem item?_eq_some_iff {α : Type} {xs : List α} {i : Int} {x : α} :
    Grid.item? xs i = some x ↔ ∃ n : Nat, i = n ∧ xs[n]? = some x := by
  rw [Grid.item?]
  constructor
  · intro h
    split_ifs at h with hpos
    exact ⟨i.toNat, (Int.toNat_of_nonneg hpos).symm, h⟩
  · rintro ⟨n, rfl, hx⟩
    rw [if_pos (Int.natCast_nonneg n), Int.toNat_natCast, hx]

/-- Looking up an item in a mapped list maps what is found. -/
theorem item?_map {α β : Type} (f : α → β) (xs : List α) (i : Int) :
    Grid.item? (xs.map f) i = (Grid.item? xs i).map f := by
  rw [Grid.item?, Grid.item?]
  split_ifs with hpos
  · rw [List.getElem?_map]
  · rfl

/-- Nothing put after a list changes what it has at a place, whether that is no item or an
empty one. -/
theorem join_item?_append_replicate {α : Type} (xs : List (Option α)) (k : Nat) (i : Int) :
    (Grid.item? (xs ++ List.replicate k none) i).join = (Grid.item? xs i).join := by
  rw [Grid.item?, Grid.item?]
  split_ifs with hpos
  · obtain hlt | hle := Nat.lt_or_ge i.toNat xs.length
    · rw [List.getElem?_append_left hlt]
    · rw [List.getElem?_append_right hle, List.getElem?_eq_none hle, List.getElem?_replicate]
      split_ifs <;> rfl
  · rfl

/-- The address of an entry is the place of its value. -/
theorem listedBy_cellsOf (rows : List (List Json)) : ListedBy rows (cellsOf rows) := by
  rintro ⟨i, j⟩ v
  simp only [cellsOf, textAt?, List.mem_flatMap, List.mem_filterMap, Option.map_eq_some_iff,
    Option.bind_eq_bind, Option.bind_eq_some_iff, item?_eq_some_iff, Prod.mk.injEq,
    Address.mk.injEq, Prod.exists, List.mem_zipIdx_iff_getElem?]
  constructor
  · rintro ⟨row, m, hrow, x, n, hx, s, hs, ⟨rfl, rfl⟩, rfl⟩
    exact ⟨s, ⟨row, ⟨m, rfl, hrow⟩, x, ⟨n, rfl, hx⟩, hs⟩, rfl⟩
  · rintro ⟨s, ⟨row, ⟨m, rfl, hrow⟩, x, ⟨n, rfl, hx⟩, hs⟩, rfl⟩
    exact ⟨row, m, hrow, x, n, hx, s, hs, ⟨rfl, rfl⟩, rfl⟩

end Rows

/-! ### Frames of rows -/

namespace Frame

open Rows

/-- The frame of rows with the names of its columns: each row filled up with empty cells to the
width of the longest one. -/
def filledUp (columns : List String) (rows : List (List Json)) : Frame where
  columns := columns
  rows := rows.map fun row =>
    row.map text? ++ List.replicate (widthOf rows - row.length) none

/-- The text of a cell is that of its value, unless the value has none. -/
theorem cellText_cases (v : Json) :
    cellText v = .ok (text? v) ∨ (Unwritable v ∧ cellText v = .error .unwritable) := by
  by_cases hnull : v = .null
  · exact Or.inl (hnull ▸ rfl)
  · rw [text?_of_ne_null hnull, cellText.eq_2 v hnull]
    cases htext : (Datum.ofJson v).text? with
    | some s => exact Or.inl rfl
    | none => exact Or.inr ⟨⟨hnull, htext⟩, rfl⟩

/-- A traversal answers exactly when each of its steps does. -/
theorem isSome_mapM_iff {α β : Type} {f : α → Option β} {xs : List α} :
    (xs.mapM f).isSome = true ↔ ∀ x ∈ xs, (f x).isSome = true := by
  induction xs with
  | nil => exact iff_of_true rfl fun _ hx => absurd hx List.not_mem_nil
  | cons x r ih =>
      rw [List.mapM_cons, List.forall_mem_cons, ← ih]
      cases f x with
      | none => exact iff_of_false Bool.false_ne_true fun h => absurd h.1 Bool.false_ne_true
      | some y => cases r.mapM f <;> simp

/-- A traversal whose steps all answer is a map. -/
theorem mapM_eq_some_map {α β : Type} {f : α → Option β} {g : α → β} {xs : List α}
    (h : ∀ x ∈ xs, f x = some (g x)) : xs.mapM f = some (xs.map g) := by
  induction xs with
  | nil => rfl
  | cons x r ih =>
      rw [List.forall_mem_cons] at h
      rw [List.mapM_cons, h.1, ih h.2]
      rfl

/-- A traversal with a single kind of failure answers for all items, or fails in this way at
one of them. -/
theorem mapM_cases {ε α β : Type} {f : α → Except ε β} {g : α → β} {P : α → Prop} {e : ε}
    {xs : List α} (h : ∀ x ∈ xs, f x = .ok (g x) ∨ (P x ∧ f x = .error e)) :
    xs.mapM f = .ok (xs.map g) ∨ ((∃ x ∈ xs, P x) ∧ xs.mapM f = .error e) := by
  induction xs with
  | nil => exact Or.inl rfl
  | cons x r ih =>
      rw [List.mapM_cons]
      obtain hx | ⟨hP, hx⟩ := h x List.mem_cons_self
      · obtain hr | ⟨⟨y, hy, hP⟩, hr⟩ := ih fun y hy => h y (List.mem_cons_of_mem x hy)
        · exact Or.inl (by rw [hx, hr]; rfl)
        · exact Or.inr ⟨⟨y, List.mem_cons_of_mem x hy, hP⟩, by rw [hx, hr]; rfl⟩
      · exact Or.inr ⟨⟨x, List.mem_cons_self, hP⟩, by rw [hx]; rfl⟩

/-- The greatest of some numbers is within a bound when all of them are. -/
theorem foldl_max_le_iff {xs : List Nat} {m n : Nat} :
    xs.foldl max m ≤ n ↔ m ≤ n ∧ ∀ x ∈ xs, x ≤ n := by
  induction xs generalizing m with
  | nil => simp
  | cons x r ih => rw [List.foldl_cons, ih, Nat.max_le, List.forall_mem_cons, and_assoc]

/-- The width of rows is within a bound when all rows are, and it is one when there are none. -/
theorem widthOf_le_iff {rows : List (List Json)} {n : Nat} :
    widthOf rows ≤ n ↔ (rows = [] → 1 ≤ n) ∧ ∀ row ∈ rows, row.length ≤ n := by
  cases rows with
  | nil => exact ⟨fun h => ⟨fun _ => h, fun _ hrow => absurd hrow List.not_mem_nil⟩,
      fun h => h.1 rfl⟩
  | cons first rest =>
      have hne := List.cons_ne_nil first rest
      rw [widthOf, foldl_max_le_iff, List.forall_mem_map]
      · exact ⟨fun h => ⟨fun hnil => absurd hnil hne, h.2⟩, fun h => ⟨Nat.zero_le n, h.2⟩⟩
      · exact hne

/-- A width beyond a bound is that of a row. -/
theorem exists_of_lt_widthOf {rows : List (List Json)} {n : Nat} (hn : 1 ≤ n)
    (h : n < widthOf rows) : ∃ row ∈ rows, n < row.length := by
  by_contra hnone
  simp only [not_exists, not_and, Nat.not_lt] at hnone
  exact absurd (widthOf_le_iff.mpr ⟨fun _ => hn, hnone⟩) (Nat.not_le.mpr h)

/-- The frame has a column unless there are rows and all of them are empty. -/
theorem widthOf_ne_zero {rows : List (List Json)} (h : rows = [] ∨ ∃ row ∈ rows, row ≠ []) :
    widthOf rows ≠ 0 := by
  intro hzero
  obtain ⟨hnil, hlength⟩ := widthOf_le_iff.mp (Nat.le_of_eq hzero)
  rcases h with hrows | ⟨row, hrow, hne⟩
  · exact absurd (hnil hrows) (by decide)
  · exact hne (List.length_eq_zero_iff.mp (Nat.le_zero.mp (hlength row hrow)))

/-! ### Names of columns -/

/-- The name of a column, where there is one. -/
def nameOf (i : Nat) : LooseText := .ofLetters [.ofNat ('A'.toNat + i)]

/-- Only so many characters and halves of them come behind `A`. -/
theorem columnName?_eq (i : Nat) :
    columnName? i = if i < 1114047 then some (nameOf i) else none := by
  have hbound : 'A'.toNat + i < 0x110000 ↔ i < 1114047 := by
    change 65 + i < 1114112 ↔ _
    omega
  rw [columnName?, Letter.ofNat?, nameOf]
  simp only [hbound]
  split <;> rfl

/-- A name of a column is a character before the halves begin. -/
theorem isSome_string?_nameOf {i : Nat} (h : i < 55231) : (nameOf i).string?.isSome = true := by
  have hletter : Letter.ofNat ('A'.toNat + i) = .whole (Char.ofNat ('A'.toNat + i)) := by
    refine dif_neg fun hhalf => ?_
    have hlow : 55296 ≤ 65 + i := hhalf.1
    omega
  rw [nameOf, hletter]
  rfl

/-- Behind these the name of a column is the first half of a character. -/
theorem string?_nameOf_half : (nameOf 55231).string? = none := by
  have hletter : (Letter.ofNat ('A'.toNat + 55231)).isHalf = true := by decide
  rw [nameOf, LooseText.ofLetters, dif_pos (by rw [List.any_cons, hletter, Bool.true_or])]
  rfl

/-- **How many columns have names**: with more of them than there are characters some have no name,
and with fewer the name of one may be half of a character. -/
theorem columnNames?_cases (width : Nat) :
    (1114048 < width ∧ columnNames? width = none) ∨
    ∃ names, columnNames? width = some names ∧
      ((55232 < width ∧ names.mapM LooseText.string? = none) ∨
        (width ≤ 55232 ∧ ∃ columns, names.mapM LooseText.string? = some columns)) := by
  by_cases hwidth : 1114048 < width
  · left
    have hnone : ¬((List.range (width - 1)).mapM columnName?).isSome = true := by
      rw [isSome_mapM_iff]
      intro h
      have hlast := h 1114047 (List.mem_range.mpr (by omega))
      rw [columnName?_eq, if_neg (Nat.lt_irrefl _)] at hlast
      cases hlast
    rw [Option.not_isSome_iff_eq_none] at hnone
    exact ⟨hwidth, by rw [columnNames?, hnone]; rfl⟩
  · right
    have hnames : (List.range (width - 1)).mapM columnName? =
        some ((List.range (width - 1)).map nameOf) := by
      refine mapM_eq_some_map fun i hi => ?_
      have hlt := List.mem_range.mp hi
      rw [columnName?_eq, if_pos (by omega)]
    refine ⟨_, by rw [columnNames?, hnames]; rfl, ?_⟩
    rw [← Option.isSome_iff_exists, ← Option.not_isSome_iff_eq_none, isSome_mapM_iff,
      List.forall_mem_cons, List.forall_mem_map]
    by_cases hhalf : 55232 < width
    · refine Or.inl ⟨hhalf, fun h => ?_⟩
      have hlast := h.2 55231 (List.mem_range.mpr (by omega))
      rw [string?_nameOf_half] at hlast
      cases hlast
    · refine Or.inr ⟨Nat.not_lt.mp hhalf, rfl, fun i hi => isSome_string?_nameOf ?_⟩
      have hlt := List.mem_range.mp hi
      omega

/-- The columns must have names before the values are turned into texts, and names of characters
after that. -/
theorem ofRows_eq_bind (rows : List (List Json)) :
    ofRows rows = match columnNames? (widthOf rows) with
      | none => .error .unnamed
      | some names => (rows.mapM fun row : List Json => row.mapM cellText).bind fun texts =>
          if widthOf rows = 0 then .error .shape
          else match names.mapM LooseText.string? with
            | none => .error .torn
            | some columns => .ok {
                columns
                rows := texts.map fun row =>
                  row ++ List.replicate (widthOf rows - row.length) none } := by
  rw [ofRows]
  dsimp only
  cases columnNames? (widthOf rows) with
  | none => rfl
  | some names =>
      cases rows.mapM fun row : List Json => row.mapM cellText with
      | error e => rfl
      | ok texts =>
          by_cases hzero : widthOf rows = 0
          · simp only [Except.bind, if_pos hzero]
            rfl
          · simp only [Except.bind, if_neg hzero]
            cases names.mapM LooseText.string? with
            | none => rfl
            | some columns => rfl

/-- **Which rows become a frame**: those that are not all empty, unless a value has no text or a row
is so wide that not all columns have names. -/
theorem ofRows_cases {rows : List (List Json)} (h : rows = [] ∨ ∃ row ∈ rows, row ≠ []) :
    (widthOf rows ≤ 55232 ∧ ∃ columns, ofRows rows = .ok (filledUp columns rows)) ∨
    ((∃ row ∈ rows, ∃ v ∈ row, Unwritable v) ∧ ofRows rows = .error .unwritable) ∨
    (1114048 < widthOf rows ∧ ofRows rows = .error .unnamed) ∨
    (55232 < widthOf rows ∧ ofRows rows = .error .torn) := by
  have htexts : rows.mapM (fun row => row.mapM cellText) = .ok (rows.map (·.map text?)) ∨
      ((∃ row ∈ rows, ∃ v ∈ row, Unwritable v) ∧
        rows.mapM (fun row => row.mapM cellText) = .error .unwritable) :=
    mapM_cases fun row _ => mapM_cases fun v _ => cellText_cases v
  rw [ofRows_eq_bind]
  obtain ⟨hwidth, hnames⟩ | ⟨names, hnames, hstrings⟩ := columnNames?_cases (widthOf rows)
  · rw [hnames]
    exact Or.inr (Or.inr (Or.inl ⟨hwidth, rfl⟩))
  rw [hnames]
  dsimp only
  obtain hok | ⟨hcell, herr⟩ := htexts
  · rw [hok, Except.bind, if_neg (widthOf_ne_zero h)]
    obtain ⟨hwidth, htorn⟩ | ⟨hwidth, columns, hcolumns⟩ := hstrings
    · rw [htorn]
      exact Or.inr (Or.inr (Or.inr ⟨hwidth, rfl⟩))
    · refine Or.inl ⟨hwidth, columns, ?_⟩
      rw [hcolumns, filledUp, List.map_map]
      simp only [Function.comp_def, List.length_map]
  · rw [herr]
    exact Or.inr (Or.inl ⟨hcell, rfl⟩)

end Frame

/-! ### Raw values -/

namespace Rows

/-- The value at an address of a frame is the cell in its row and column, null when there is none.
-/
theorem valueAt_of_frame (f : Frame) (selected : Option Address) (a : Address) :
    Grid.valueAt ⟨.frame f, selected⟩ a =
      rawOf ((Grid.item? f.rows a.row).bind fun row => (Grid.item? row a.column).join) := by
  rw [Grid.valueAt.eq_def]
  dsimp only
  cases Grid.item? f.rows a.row with
  | none => rfl
  | some row => rcases hitem : Grid.item? row a.column with _ | _ | s <;> simp [hitem, rawOf]

/-- The raw value in a frame of rows. -/
theorem valueAt_frame (columns : List String) (rows : List (List Json))
    (selected : Option Address) (a : Address) :
    Grid.valueAt ⟨.frame (Frame.filledUp columns rows), selected⟩ a = rawOf (textAt? rows a) := by
  rw [valueAt_of_frame, Frame.filledUp, item?_map, textAt?]
  cases Grid.item? rows a.row with
  | none => rfl
  | some row =>
      simp only [Option.map_some, Option.bind_some, Option.bind_eq_bind]
      rw [join_item?_append_replicate, item?_map]
      cases Grid.item? row a.column <;> rfl

/-- The raw value in a table that lists rows. -/
theorem ListedBy.valueAt_sparse {rows : List (List Json)} {cells : List (Address × Json)}
    (h : ListedBy rows cells) (n : Int) (selected : Option Address) (a : Address) :
    Grid.valueAt ⟨.sparse n cells, selected⟩ a = rawOf (textAt? rows a) := by
  rw [Grid.valueAt]
  dsimp only
  cases hfind : cells.find? (·.1 == a) with
  | some p =>
      obtain ⟨b, v⟩ := p
      obtain rfl : b = a := by simpa using List.find?_some hfind
      obtain ⟨s, hs, rfl⟩ := (h b v).mp (List.mem_of_find?_eq_some hfind)
      rw [hs]
      rfl
  | none =>
      cases htext : textAt? rows a with
      | none => rfl
      | some s =>
          have := List.find?_eq_none.mp hfind (a, .text s) ((h a _).mpr ⟨s, htext, rfl⟩)
          simp at this

/-- Every reference has the same number in both kinds, or the same failure. -/
theorem ListedBy.resolve_eq {rows : List (List Json)} {cells : List (Address × Json)}
    (h : ListedBy rows cells) (columns : List String) (selected : Option Address) :
    resolve (some ⟨.frame (Frame.filledUp columns rows), selected⟩) =
      resolve (some ⟨.sparse rows.length cells, selected⟩) := by
  funext ref
  refine resolve_congr (fun a _ => Grid.permit_congr ?_ Iff.rfl) fun a _ _ => ?_
  · exact congrArg Int.ofNat (List.length_map ..)
  · rw [valueAt_frame, h.valueAt_sparse]

end Rows

namespace Computation

/-- **The two kinds of sheets agree.** Rows that are not all empty become a frame, unless they hold
an integer of too many digits or one of them is so wide that the names of the columns come to an
end; and then every formula is read from the frame as from any sparse sheet of the same rows, with
the same selection: the same formula or the same failure, after the same references. -/
theorem parse_frame_eq_parse_sparse {rows : List (List Json)}
    (h : rows = [] ∨ ∃ row ∈ rows, row ≠ []) :
    (∃ f, Frame.ofRows rows = .ok f ∧ (∀ row ∈ rows, row.length ≤ 55232) ∧
      ∀ cells, Rows.ListedBy rows cells → ∀ (selected : Option Address) (ts : List Token),
        parse (some ⟨.frame f, selected⟩) ts =
          parse (some ⟨.sparse rows.length cells, selected⟩) ts) ∨
    (Frame.ofRows rows = .error .unwritable ∧
      ∃ row ∈ rows, ∃ v ∈ row, v ≠ .null ∧ (Datum.ofJson v).text? = none) ∨
    (Frame.ofRows rows = .error .unnamed ∧ ∃ row ∈ rows, 1114048 < row.length) ∨
    (Frame.ofRows rows = .error .torn ∧ ∃ row ∈ rows, 55232 < row.length) := by
  obtain ⟨hwidth, columns, hok⟩ | ⟨hcell, herr⟩ | ⟨hwidth, herr⟩ | ⟨hwidth, herr⟩ :=
    Frame.ofRows_cases h
  · refine Or.inl ⟨_, hok, (Frame.widthOf_le_iff.mp hwidth).2, fun cells hcells selected ts => ?_⟩
    rw [parse, parse, hcells.resolve_eq]
  · exact Or.inr (Or.inl ⟨herr, hcell⟩)
  · exact Or.inr (Or.inr (Or.inl ⟨herr, Frame.exists_of_lt_widthOf (by decide) hwidth⟩))
  · exact Or.inr (Or.inr (Or.inr ⟨herr, Frame.exists_of_lt_widthOf (by decide) hwidth⟩))

/-- From three rows of different lengths, one of them empty, with a null and a truth value, the
number in the last one is read. -/
theorem parse_frame_eq_parse_sparse_ragged : ∃ (rows : List (List Json)) (f : Frame),
    rows = [[.text "r1", .text "-10", .null, .bool true], [], [.text "r3", .text " 7 "]] ∧
    (rows = [] ∨ ∃ row ∈ rows, row ≠ []) ∧
    Frame.ofRows rows = .ok f ∧
    (∀ (selected : Option Address) (ts : List Token),
      parse (some ⟨.frame f, selected⟩) ts =
        parse (some ⟨.sparse 3 [(⟨0, 0⟩, .text "r1"), (⟨0, 1⟩, .text "-10"),
          (⟨0, 3⟩, .text "True"), (⟨2, 0⟩, .text "r3"), (⟨2, 1⟩, .text " 7 ")], selected⟩) ts) ∧
    (parse (some ⟨.frame f, none⟩) [⟨.cellReference, "A3"⟩]).outcome = .ok (.leaf 7) := by
  have hrows : ∃ row ∈ [[.text "r1", .text "-10", .null, .bool true], [],
      [.text "r3", .text " 7 "]], row ≠ ([] : List Json) :=
    ⟨_, List.mem_cons_self, List.cons_ne_nil _ _⟩
  obtain ⟨f, hf, -, hparse⟩ | ⟨herr, -⟩ | ⟨herr, -⟩ | ⟨herr, -⟩ :=
    parse_frame_eq_parse_sparse (Or.inr hrows)
  · have hsame := hparse _ (Rows.listedBy_cellsOf _)
    refine ⟨_, f, rfl, Or.inr hrows, hf, hsame, ?_⟩
    rw [hsame none]
    exact parse_reference rfl
  · cases herr
  · cases herr
  · cases herr

/-- **No frame is made of a row that is too wide**, such as one of 55,233 zeros, where the last
column is named by half of a character, or of 1,114,049, where it has no name. As a sparse sheet
such a row is no hindrance to reading a formula. -/
theorem not_ofRows_wide :
    (∀ f, Frame.ofRows [List.replicate 55233 (.whole 0)] ≠ .ok f) ∧
    (∀ f, Frame.ofRows [List.replicate 1114049 (.whole 0)] ≠ .ok f) ∧
    ∀ cells, Rows.ListedBy [List.replicate 55233 (.whole 0)] cells →
      (parse (some ⟨.sparse 1 cells, none⟩) [⟨.number, "1"⟩]).outcome = .ok (.leaf 1) := by
  have hwide (n : Nat) (hn : 55232 < n) (f : Frame) :
      Frame.ofRows [List.replicate n (.whole 0)] ≠ .ok f := by
    intro hok
    have hne : List.replicate n (Json.whole 0 : Json) ≠ [] :=
      List.ne_nil_of_length_pos (by rw [List.length_replicate]; omega)
    obtain ⟨hwidth, -⟩ | ⟨-, herr⟩ | ⟨-, herr⟩ | ⟨-, herr⟩ :=
      Frame.ofRows_cases (Or.inr ⟨_, List.mem_singleton_self _, hne⟩)
    · have hlength := (Frame.widthOf_le_iff.mp hwidth).2 _ (List.mem_singleton_self _)
      rw [List.length_replicate] at hlength
      exact absurd hlength (Nat.not_le.mpr hn)
    all_goals
      rw [hok] at herr
      cases herr
  refine ⟨hwide 55233 (by decide), hwide 1114049 (by decide), fun cells _ => ?_⟩
  have hnumber : Derives (resolve (some ⟨.sparse 1 cells, none⟩)) .term [⟨.number, "1"⟩]
      (.leaf 1) := .oneFactor (.number rfl (by decide))
  exact outcome_parse_eq_ok_iff.mpr hnumber.ofTerm

end Computation

end SheetFormula
