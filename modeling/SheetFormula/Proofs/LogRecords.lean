import SheetFormula.Event.Basic
import SheetFormula.Proofs.JsonTexts

/-!
# The Records of Events

An event with a proper context is written as one line of printable characters. The line writes the
record of the event, its names in order, in which each value of the context can be looked up.

## Main results

* `Event.inContext?_logged`: the value of a name in the context of a record.
* `Event.exists_line?`: **an event with a proper context has a line**, which writes its record.
-/

namespace SheetFormula

open Decimal (digitLimit writable)

/-! ### Proper values -/

namespace Json

variable {p q : Float → Prop}

/-- The items of a list are sorted one by one. -/
theorem sortedList_eq_map (items : List Json) : sortedList items = items.map sorted := by
  induction items with
  | nil => rfl
  | cons j r ih => rw [sortedList, ih, List.map_cons]

/-- The values of a record are sorted one by one. -/
theorem sortedFields_eq_map (fields : List (String × Json)) :
    sortedFields fields = fields.map fun f => (f.1, sorted f.2) := by
  induction fields with
  | nil => rfl
  | cons f r ih => rw [sortedFields, ih, List.map_cons]

/-- Inserting a field by its name adds the field. -/
theorem perm_insertByName {α : Type} (field : String × α) (fields : List (String × α)) :
    (insertByName field fields).Perm (field :: fields) := by
  induction fields with
  | nil => exact .rfl
  | cons f r ih =>
      rw [insertByName]
      split
      · exact .rfl
      · exact (ih.cons f).trans (.swap field f r)

/-- The order of the names is a permutation. -/
theorem perm_sortByName {α : Type} (fields : List (String × α)) :
    (sortByName fields).Perm fields := by
  induction fields with
  | nil => exact .rfl
  | cons f r ih => exact (perm_insertByName f _).trans (ih.cons f)

/-- A record keeps its names when its values are replaced. -/
theorem Proper.record_map {fields : List (String × Json)}
    (hnames : (fields.map Prod.fst).Nodup) {g : Json → Json}
    (hvalues : ∀ f ∈ fields, Proper q (g f.2)) :
    Proper q (.record (fields.map fun f => (f.1, g f.2))) := by
  refine .record ?_ (fun f hf => ?_)
  · have hkeep : (fields.map fun f => (f.1, g f.2)).map Prod.fst = fields.map Prod.fst := by
      rw [List.map_map]
      rfl
    rwa [hkeep]
  · obtain ⟨f, hmem, rfl⟩ := List.mem_map.mp hf
    exact hvalues f hmem

/-- The order of the fields does not matter. -/
theorem Proper.record_perm {fields fields' : List (String × Json)}
    (h : Proper p (.record fields)) (hperm : fields'.Perm fields) : Proper p (.record fields') := by
  cases h with
  | record hnames hvalues =>
      exact .record ((hperm.map Prod.fst).nodup_iff.mpr hnames)
        (fun f hf => hvalues f (hperm.mem_iff.mp hf))

/-- A proper value is proper in the order of the names. -/
theorem Proper.sorted {j : Json} (h : Proper p j) : Proper p j.sorted := by
  induction h with
  | null => exact .null
  | bool b => exact .bool b
  | whole hi => exact .whole hi
  | real hx => exact .real hx
  | text s => exact .text s
  | list _ ih =>
      rw [Json.sorted, sortedList_eq_map]
      refine .list (fun j hj => ?_)
      obtain ⟨k, hk, rfl⟩ := List.mem_map.mp hj
      exact ih k hk
  | record hnames _ ih =>
      rw [Json.sorted, sortedFields_eq_map]
      exact (Proper.record_map hnames ih).record_perm (perm_sortByName _)

/-! ### Looking up names -/

/-- In a record whose names differ, looking up a name finds the field of that name. -/
theorem lookup_eq_some_iff {fields : List (String × Json)} (h : (fields.map Prod.fst).Nodup)
    {name : String} {j : Json} : lookup name fields = some j ↔ (name, j) ∈ fields := by
  induction fields with
  | nil => exact ⟨fun hnone => (nomatch hnone), fun hmem => absurd hmem List.not_mem_nil⟩
  | cons f r ih =>
      obtain ⟨n, v⟩ := f
      rw [List.map_cons, List.nodup_cons] at h
      rw [List.mem_cons, ← ih h.2, lookup, List.find?_cons]
      by_cases hn : n = name
      · subst hn
        have hr : lookup n r ≠ some j := by
          intro hsome
          exact h.1 (List.mem_map.mpr ⟨_, (ih h.2).mp hsome, rfl⟩)
        simp [hr, eq_comm]
      · have hne : (n == name) = false := beq_false_of_ne hn
        simp [hne, lookup, Ne.symm hn]

/-- The order of the fields does not matter to a look at one of them. -/
theorem lookup_perm {fields fields' : List (String × Json)} (hperm : fields'.Perm fields)
    (h : (fields.map Prod.fst).Nodup) (name : String) :
    lookup name fields' = lookup name fields := by
  have h' : (fields'.map Prod.fst).Nodup := (hperm.map Prod.fst).nodup_iff.mpr h
  ext j
  rw [lookup_eq_some_iff h', lookup_eq_some_iff h, hperm.mem_iff]

/-- Looking up a name in mapped values maps what is found. -/
theorem lookup_map (g : Json → Json) (fields : List (String × Json)) (name : String) :
    lookup name (fields.map fun f => (f.1, g f.2)) = (lookup name fields).map g := by
  induction fields with
  | nil => rfl
  | cons f r ih =>
      rw [lookup, lookup, List.map_cons, List.find?_cons, List.find?_cons]
      cases f.1 == name with
      | true => rfl
      | false => exact ih

/-- The value of a name in the context of a record. -/
def inContext? (record : Json) (name : String) : Option Json :=
  (record.field? "context").bind (field? name)

end Json

namespace Event

open Json (Proper Writes quote)

/-- The items of a list are made finite one by one. -/
theorem finiteList_eq_map (items : List Json) : finiteList items = items.map finite := by
  induction items with
  | nil => rfl
  | cons j r ih => rw [finiteList, ih, List.map_cons]

/-- The values of a record are made finite one by one. -/
theorem finiteFields_eq_map (fields : List (String × Json)) :
    finiteFields fields = fields.map fun f => (f.1, finite f.2) := by
  induction fields with
  | nil => rfl
  | cons f r ih => rw [finiteFields, ih, List.map_cons]

/-- A context is cut value by value. -/
theorem redact_eq_map (fields : List (String × Json)) :
    redact fields = fields.map fun f => (f.1, redactValue f.2) := by
  induction fields with
  | nil => rfl
  | cons f r ih => rw [redact, ih, List.map_cons]

/-- Cutting the texts of a value keeps it proper. -/
theorem proper_redactValue {p : Float → Prop} {j : Json} (h : Proper p j) :
    Proper p (redactValue j) := by
  induction h with
  | null => exact .null
  | bool b => exact .bool b
  | whole hi => exact .whole hi
  | real hx => exact .real hx
  | text s => exact .text _
  | list h => exact .list h
  | record hnames _ ih =>
      rw [redactValue, redact_eq_map]
      exact .record_map hnames ih

/-- Without its infinite doubles a value is proper for a log line. -/
theorem proper_finite {p : Float → Prop} {j : Json} (h : Proper p j) :
    Proper (fun x => Decimal.isFinite x = true) (finite j) := by
  induction h with
  | null => exact .null
  | bool b => exact .bool b
  | whole hi => exact .whole hi
  | @real x _ =>
      rw [finite]
      split
      · rename_i hx
        exact .real hx
      · exact .null
  | text s => exact .text s
  | list _ ih =>
      rw [finite, finiteList_eq_map]
      refine .list (fun j hj => ?_)
      obtain ⟨k, hk, rfl⟩ := List.mem_map.mp hj
      exact ih k hk
  | record hnames _ ih =>
      rw [finite, finiteFields_eq_map]
      exact .record_map hnames ih

/-! ### Records -/

/-- An event with a **proper context**: any JSON record without an integer beyond the digit
limit. -/
def HasProperContext (e : Event) : Prop := Proper (fun _ => True) (.record e.context)

/-- The **record of an event in the log**, its names in order. Long texts of the context are
cut, and its doubles that are infinite or not a number are null. -/
def logged (stamp : String) (e : Event) : Json :=
  .record [
    ("context", (Json.record (finiteFields (redact e.context))).sorted),
    ("error_code", match e.code with
      | some code => .text code
      | none => .null),
    ("event_type", .text e.kind.name),
    ("level", .text e.level.name),
    ("message", .text e.message),
    ("schema_version", .whole 1),
    ("ts", .text stamp)]

/-- The record of an event, sorted by names, is what is logged. -/
theorem sorted_toJson (stamp : String) (e : Event) : (e.toJson stamp).sorted = e.logged stamp := by
  obtain ⟨level, kind, message, context, code⟩ := e
  cases code with
  | none =>
      simp +decide only [toJson, Json.sorted, Json.sortedFields, Json.sortByName, Json.insertByName,
        List.foldr_cons, List.foldr_nil, if_true, if_false]
      rfl
  | some code =>
      simp +decide only [toJson, Json.sorted, Json.sortedFields, Json.sortByName, Json.insertByName,
        List.foldr_cons, List.foldr_nil, if_true, if_false]
      rfl

/-- The line of an event is that of its record. -/
theorem line?_eq (stamp : String) (e : Event) : e.line? stamp = (e.logged stamp).line? := by
  rw [Event.line?, sorted_toJson]

/-- The number 1 can be written. -/
theorem writable_one : writable 1 = true := by
  have hlimit : digitLimit ≠ 0 := by decide
  rw [writable, decide_eq_true_iff, Nat.pow_eq]
  exact Nat.one_lt_pow hlimit (by norm_num)

/-- What is logged of an event with a proper context is proper. -/
theorem proper_logged {e : Event} (h : e.HasProperContext) (stamp : String) :
    Proper (fun x => Decimal.isFinite x = true) (e.logged stamp) := by
  have hcontext : Proper (fun x => Decimal.isFinite x = true)
      (Json.record (finiteFields (redact e.context))).sorted :=
    (proper_finite (proper_redactValue h)).sorted
  have hcode : Proper (fun x => Decimal.isFinite x = true) (match e.code with
      | some code => .text code
      | none => .null) := by
    split
    · exact .text _
    · exact .null
  refine .record (by simp) ?_
  simp only [List.forall_mem_cons]
  exact ⟨hcontext, hcode, .text _, .text _, .text _, .whole writable_one, .text _,
    fun _ h => absurd h List.not_mem_nil⟩

/-- **The line of an event** writes its record, and it begins and ends with braces. -/
theorem exists_line? {e : Event} (h : e.HasProperContext) (stamp : String) :
    ∃ line, e.line? stamp = some line ∧ Writes line.toList (e.logged stamp).loose ∧
      ∃ cs, line.toList = '\x7b' :: '"' :: 'c' :: (cs ++ ['\x7d']) := by
  obtain ⟨line, hline, hwrites⟩ := (proper_logged h stamp).writes
  refine ⟨line, ?_, hwrites, ?_⟩
  · rw [line?_eq, hline]
  · rw [logged, Json.line?, Option.map_eq_some_iff] at hline
    obtain ⟨parts, hparts, rfl⟩ := hline
    rw [Json.lineFields?] at hparts
    simp only [Option.bind_eq_bind, Option.bind_eq_some_iff, Option.pure_def] at hparts
    obtain ⟨value, -, parts', -, heq⟩ := hparts
    obtain rfl := Option.some.inj heq
    have hname : (quote "context").toList = '"' :: 'c' :: ("ontext".toList ++ ['"']) := by
      rw [Json.toList_quote]
      rfl
    obtain ⟨more, hmore⟩ := Json.exists_joined (quote "context" ++ ": " ++ value).toList
      (parts'.map String.toList)
    rw [Json.toList_bracketed, List.map_cons, hmore, String.toList_append, String.toList_append,
      hname]
    exact ⟨"ontext".toList ++ ['"'] ++ ": ".toList ++ value.toList ++ more, by simp⟩

/-- **A value of the context in the record** of an event is that of the event, cut and in order. -/
theorem inContext?_logged {e : Event} (h : (e.context.map Prod.fst).Nodup) (stamp name : String) :
    (e.logged stamp).inContext? name =
      (Json.lookup name e.context).map fun j => (finite (redactValue j)).sorted := by
  have hkeep (g : Json → Json) (fields : List (String × Json)) :
      (fields.map fun f => (f.1, g f.2)).map Prod.fst = fields.map Prod.fst := by
    rw [List.map_map]
    rfl
  change (Json.record (finiteFields (redact e.context))).sorted.field? name = _
  rw [redact_eq_map, finiteFields_eq_map, Json.sorted, Json.sortedFields_eq_map, Json.field?,
    Json.lookup_perm (Json.perm_sortByName _) (by rwa [hkeep, hkeep, hkeep]), Json.lookup_map,
    Json.lookup_map, Json.lookup_map, Option.map_map, Option.map_map]
  rfl

end Event

end SheetFormula
