import SheetFormula.Proofs.EventProtocol

/-!
# The Length of What Is Logged

The texts in a context are cut to a bounded length before an event is written. Lists in a context
are left as they are, and so is the message, which quotes the formula or what stands in a cell. So
the texts of a record are as short as they should be exactly when the message and the texts in lists
were short to begin with.

The events of a computation have no lists in their context: with them it is the message alone that
counts. A long formula that is read is quoted in full in its record.

## Main results

* `Event.isShort_redactValue_iff`: which texts of a value are short when the long ones are
  cut.
* `Workspace.records_bounded_iff`: **when the records of a log are bounded**, for events that are
  logged and for computations.
* `Computation.not_bounded_of_read`: a formula of more than 253 characters that is read never leaves
  bounded records.
* `Event.not_bounded_listing`: a long text in a list.
-/

namespace SheetFormula

/-! ### Texts in values -/

namespace Json

/-- **Induction over values**: what passes up from the items of a list and the values of a record
holds of all values. -/
@[elab_as_elim]
theorem induction {motive : Json → Prop} (null : motive .null) (bool : ∀ b, motive (.bool b))
    (whole : ∀ i, motive (.whole i)) (real : ∀ x, motive (.real x))
    (text : ∀ s, motive (.text s))
    (list : ∀ items, (∀ j ∈ items, motive j) → motive (.list items))
    (record : ∀ fields, (∀ f ∈ fields, motive f.2) → motive (.record fields)) (j : Json) :
    motive j :=
  @Json.rec String motive (fun items => ∀ j ∈ items, motive j)
    (fun fields => ∀ f ∈ fields, motive f.2)
    (fun f => motive f.2) null bool whole real text list record (List.forall_mem_nil _)
    (fun _ _ hj hr => List.forall_mem_cons.mpr ⟨hj, hr⟩) (List.forall_mem_nil _)
    (fun _ _ hf hr => List.forall_mem_cons.mpr ⟨hf, hr⟩) (fun _ _ hj => hj) j

mutual

/-- The **texts in a value**, at any depth. The names of fields are not among them. -/
def texts : Json → List String
  | .text s => [s]
  | .list items => textsOfList items
  | .record fields => textsOfFields fields
  | _ => []

def textsOfList : List Json → List String
  | [] => []
  | j :: r => texts j ++ textsOfList r

def textsOfFields : List (String × Json) → List String
  | [] => []
  | (_, j) :: r => texts j ++ textsOfFields r

end

mutual

/-- The texts that stand **in a list** of a value, at any depth. -/
def listed : Json → List String
  | .list items => textsOfList items
  | .record fields => listedInFields fields
  | _ => []

/-- The texts that stand in a list in named values. -/
def listedInFields : List (String × Json) → List String
  | [] => []
  | (_, j) :: r => listed j ++ listedInFields r

end

/-- The texts of a list are those of its items. -/
theorem textsOfList_eq_flatMap (items : List Json) : textsOfList items = items.flatMap texts := by
  induction items with
  | nil => rfl
  | cons j r ih => rw [textsOfList, ih, List.flatMap_cons]

/-- The texts of a record are those of its values. -/
theorem textsOfFields_eq_flatMap (fields : List (String × Json)) :
    textsOfFields fields = fields.flatMap fun f => texts f.2 := by
  induction fields with
  | nil => rfl
  | cons f r ih => rw [textsOfFields, ih, List.flatMap_cons]

/-- The texts that a record has in lists are those that its values have there. -/
theorem listedInFields_eq_flatMap (fields : List (String × Json)) :
    listedInFields fields = fields.flatMap fun f => listed f.2 := by
  induction fields with
  | nil => rfl
  | cons f r ih => rw [listedInFields, ih, List.flatMap_cons]

/-- The order of the names changes the texts in their order only. -/
theorem perm_texts_sorted (j : Json) : j.sorted.texts.Perm j.texts := by
  induction j using Json.induction with
  | null | bool | whole | real | text => exact .rfl
  | list items ih =>
      rw [sorted, texts, texts, textsOfList_eq_flatMap, textsOfList_eq_flatMap,
        sortedList_eq_map, List.flatMap_map]
      exact List.Perm.flatMap_left items ih
  | record fields ih =>
      rw [sorted, texts, texts, textsOfFields_eq_flatMap, textsOfFields_eq_flatMap,
        sortedFields_eq_map]
      refine (List.Perm.flatMap_right _ (perm_sortByName _)).trans ?_
      rw [List.flatMap_map]
      exact List.Perm.flatMap_left fields ih

end Json

/-! ### Cut texts -/

namespace Event

open Json (listedInFields)

/-- The greatest number of characters of a text that was cut, with its mark. -/
def textBound : Nat := textLimit + cutMark.length

/-- A value all of whose texts are **short enough**. -/
def IsShort (j : Json) : Prop := ∀ s ∈ j.texts, s.length ≤ textBound

/-- A text that was cut is within the bound. -/
theorem length_cutText_le (s : String) : (cutText s).length ≤ textBound := by
  rw [cutText, textBound]
  split
  · rw [String.length_append, String.length_ofList, List.length_take]
    omega
  · omega

/-- Doubles that are left out change no text. -/
theorem texts_finite (j : Json) : (finite j).texts = j.texts := by
  induction j using Json.induction with
  | null | bool | whole | text => rfl
  | real x =>
      rw [finite]
      split <;> rfl
  | list items ih =>
      rw [finite, Json.texts, Json.texts, Json.textsOfList_eq_flatMap,
        Json.textsOfList_eq_flatMap, finiteList_eq_map, List.flatMap_map]
      exact List.flatMap_congr ih
  | record fields ih =>
      rw [finite, Json.texts, Json.texts, Json.textsOfFields_eq_flatMap,
        Json.textsOfFields_eq_flatMap, finiteFields_eq_map, List.flatMap_map]
      exact List.flatMap_congr ih

/-- **When the long texts of a value are cut**, all of its texts are short exactly when those in its
lists were. -/
theorem isShort_redactValue_iff (j : Json) :
    IsShort (redactValue j) ↔ ∀ s ∈ j.listed, s.length ≤ textBound := by
  induction j using Json.induction with
  | null | bool | whole | real | list => rfl
  | text s =>
      refine ⟨fun _ _ h => absurd h List.not_mem_nil, fun _ t ht => ?_⟩
      rw [List.mem_singleton.mp ht]
      exact length_cutText_le s
  | record fields ih =>
      rw [IsShort, redactValue, Json.texts, Json.listed, redact_eq_map,
        Json.textsOfFields_eq_flatMap, Json.listedInFields_eq_flatMap, List.flatMap_map,
        List.forall_mem_flatMap, List.forall_mem_flatMap]
      exact forall₂_congr ih

/-- Neither leaving out doubles nor the order of the names makes a text longer. -/
theorem isShort_sorted_finite_iff (j : Json) : IsShort (finite j).sorted ↔ IsShort j := by
  rw [IsShort, IsShort, ← texts_finite j]
  exact forall_congr' fun s => imp_congr_left (Json.perm_texts_sorted (finite j)).mem_iff

/-! ### Records -/

/-- A record is **bounded** when no text of its message or its context is too long. -/
structure Bounded (record : Json) : Prop where
  message : ∀ v ∈ record.field? "message", IsShort v
  context : ∀ v ∈ record.field? "context", IsShort v

/-- **The record of an event is bounded** exactly when its message is short, and so are the texts in
the lists of its context. -/
theorem bounded_logged_iff (stamp : String) (e : Event) :
    Bounded (e.logged stamp) ↔
      e.message.length ≤ textBound ∧ ∀ s ∈ listedInFields e.context, s.length ≤ textBound := by
  have hmessage : (e.logged stamp).field? "message" = some (.text e.message) := rfl
  have hcontext : (e.logged stamp).field? "context" =
      some (finite (redactValue (.record e.context))).sorted := rfl
  have hbounded : Bounded (e.logged stamp) ↔ IsShort (.text e.message) ∧
      IsShort (finite (redactValue (.record e.context))).sorted := by
    refine ⟨fun h => ⟨h.message _ hmessage, h.context _ hcontext⟩, fun h => ⟨?_, ?_⟩⟩
    · intro v hv
      obtain rfl := Option.some.inj (hmessage.symm.trans hv)
      exact h.1
    · intro v hv
      obtain rfl := Option.some.inj (hcontext.symm.trans hv)
      exact h.2
  rw [hbounded, isShort_sorted_finite_iff, isShort_redactValue_iff]
  exact and_congr_left fun _ => List.forall_mem_singleton

/-- An event with a text in a list of its context. -/
def listing (s : String) : Event := ⟨.info, .parsed, "", [("k", .list [.text s])], none⟩

/-- The event with a list in its context can be logged. -/
theorem hasProperContext_listing (s : String) : (listing s).HasProperContext := by
  refine .record (List.nodup_singleton _) (List.forall_mem_singleton.mpr (.list ?_))
  exact List.forall_mem_singleton.mpr (.text s)

/-- **A long text in a list is not cut**: the record is not bounded. -/
theorem not_bounded_listing {s : String} (hs : textBound < s.length) (stamp : String) :
    ¬Bounded ((listing s).logged stamp) := by
  rw [bounded_logged_iff]
  exact fun h => absurd (h.2 s (List.mem_singleton.mpr rfl)) (Nat.not_le.mpr hs)

end Event

/-! ### Records of computations -/

namespace Computation

open Event (Bounded textBound HasProperContext)
open Json (listedInFields)

variable {α : Type}

/-- The **records of a computation** whose events are logged each at its own time. -/
def records (times : Nat → String) (c : Computation α) : List Json :=
  (c.events.mapIdx fun i e => (times i, e)).map fun e => e.2.logged e.1

/-- A computation **logs plainly** when its events can be written and have no texts in lists. -/
def LogsPlain (c : Computation α) : Prop :=
  ∀ e ∈ c.events, e.HasProperContext ∧ listedInFields e.context = []

/-- The event of a value has no lists in its context. -/
theorem listedInFields_evaluatedEvent (text : String) (elapsed x : Float) :
    listedInFields (evaluatedEvent text (.real elapsed) x).context = [] := by
  rw [evaluatedEvent]
  split <;> rfl

/-- Compiling logs no text in a list. -/
theorem logsPlain_compile (grid : Option Grid) (text : String) : LogsPlain (compile grid text) := by
  rw [LogsPlain]
  rcases compile_cases grid text with
    ⟨f, -, -, hevents⟩ | ⟨f, -, -, hevents⟩ | ⟨e, -, -, -, hevents⟩
  · rw [hevents, List.forall_mem_singleton]
    exact ⟨hasProperContext_parsedEvent text f, rfl⟩
  · rw [hevents, List.forall_mem_singleton]
    exact ⟨hasProperContext_failedEvent text .parse f, rfl⟩
  · rw [hevents]
    exact fun _ h => absurd h List.not_mem_nil

/-- Evaluating logs no text in a list. -/
theorem logsPlain_evaluation (elapsed : Float) (text : String) (f : Formula Float) :
    LogsPlain (evaluation (.real elapsed) text f) := by
  rw [LogsPlain]
  rcases evaluation_cases (.real elapsed) text f with
    ⟨x, -, -, hevents⟩ | ⟨g, -, -, hevents⟩ | ⟨e, -, -, -, hevents⟩
  · rw [hevents, List.forall_mem_singleton]
    exact ⟨hasProperContext_evaluatedEvent text elapsed x,
      listedInFields_evaluatedEvent text elapsed x⟩
  · rw [hevents, List.forall_mem_singleton]
    exact ⟨hasProperContext_failedEvent text .evaluate g, rfl⟩
  · rw [hevents]
    exact fun _ h => absurd h List.not_mem_nil

/-- Computing logs no text in a list. -/
theorem logsPlain_compute (grid : Option Grid) (elapsed : Float) (text : String) :
    LogsPlain (compute grid (.real elapsed) text) := by
  have hcompile := logsPlain_compile grid text
  rw [compute_eq, LogsPlain]
  cases houtcome : (compile grid text).outcome with
  | error e => rwa [events_bind_of_error houtcome]
  | ok f =>
      rw [events_bind_of_ok houtcome]
      exact List.forall_mem_append.mpr ⟨hcompile, logsPlain_evaluation elapsed text f⟩

/-- Of plain events the messages alone count. -/
theorem LogsPlain.bounded_iff {c : Computation α} (hc : LogsPlain c) (times : Nat → String) :
    (∀ r ∈ records times c, Bounded r) ↔ ∀ e ∈ c.events, e.message.length ≤ textBound := by
  have hrecord : ∀ e ∈ c.events, ∀ stamp,
      (Bounded (e.logged stamp) ↔ e.message.length ≤ textBound) := by
    intro e he stamp
    obtain ⟨-, hlisted⟩ := hc e he
    rw [Event.bounded_logged_iff, hlisted]
    exact and_iff_left fun _ h => absurd h List.not_mem_nil
  rw [records, List.forall_mem_map]
  constructor
  · intro h e he
    obtain ⟨i, hi, rfl⟩ := List.getElem_of_mem he
    exact (hrecord _ he (times i)).mp (h _ (List.mem_mapIdx.mpr ⟨i, hi, rfl⟩))
  · intro h e he
    obtain ⟨i, hi, rfl⟩ := List.mem_mapIdx.mp he
    exact (hrecord _ (List.getElem_mem hi) (times i)).mpr (h _ (List.getElem_mem hi))

/-! ### Long formulas -/

/-- A text between quotes is longer by at least the quotes. -/
theorem add_two_le_length_quoted (s : String) : s.length + 2 ≤ (Text.quoted s).length := by
  have hchar (quote c : Char) : Text.quotedChar Text.isPrintable quote c ≠ [] := by
    rw [Text.quotedChar, Text.numbered]
    split_ifs <;> exact List.cons_ne_nil _ _
  have hinner (quote : Char) (cs : List Char) :
      cs.length ≤ (cs.flatMap (Text.quotedChar Text.isPrintable quote)).length := by
    induction cs with
    | nil => exact le_rfl
    | cons c r ih =>
        have hc := List.length_pos_of_ne_nil (hchar quote c)
        rw [List.flatMap_cons, List.length_append, List.length_cons]
        omega
  have hs := hinner (Text.quoteMark s.toList) s.toList
  rw [String.length_toList] at hs
  rw [Text.quoted, Text.quotedBy, String.length_ofList, List.length_append, List.length_cons,
    List.length_singleton]
  omega

/-- **A long formula that is read** is quoted in full, so that its records are not bounded. -/
theorem not_bounded_of_read {grid : Option Grid} {text : String} {f : Formula Float}
    (hread : (read grid text).outcome = .ok f) (hlong : 253 < text.length)
    (times : Nat → String) : ¬∀ r ∈ records times (compile grid text), Bounded r := by
  rw [(logsPlain_compile grid text).bounded_iff]
  rcases compile_cases grid text with ⟨g, -, -, hevents⟩ | ⟨g, hfault, -⟩ | ⟨e, -, hfailure, -⟩
  · rw [hevents, List.forall_mem_singleton, parsedEvent, String.length_append]
    have hquoted := add_two_le_length_quoted text
    have hwords : "Parsed formula ".length = 15 := rfl
    have hbound : textBound = 270 := rfl
    omega
  · rw [hread] at hfault
    cases hfault
  · rw [hread] at hfailure
    cases hfailure

end Computation

/-! ### Logs -/

namespace Workspace

open Event (Bounded textBound listing)
open Event.Log (GrowsBy)
open SheetFormula.Computation (records compile compute)
open Json (listedInFields)

variable {w : Workspace} {directory : FileName} {p : Path}

/-- A log grows by the records of a computation that logs plainly, and of these the messages alone
count. -/
theorem WritesAt.performAt {α : Type} (h : w.WritesAt directory p) {c : Computation α}
    (hc : c.LogsPlain) (times : Nat → String) :
    GrowsBy (w.textAt p) ((w.performAt times c).2.textAt p) (records times c) ∧
      ((∀ r ∈ records times c, Bounded r) ↔ ∀ e ∈ c.events, e.message.length ≤ textBound) := by
  refine ⟨?_, hc.bounded_iff times⟩
  have hproper : ∀ e ∈ c.events.mapIdx fun i e => (times i, e), e.2.HasProperContext := by
    intro e he
    obtain ⟨i, hi, rfl⟩ := List.mem_mapIdx.mp he
    exact (hc _ (List.getElem_mem hi)).1
  exact (h.emitEach hproper).2

/-- **A log grows by the records** of the events that have a line, and of no others. -/
theorem WritesAt.growsBy_emitEach (h : w.WritesAt directory p) (es : List (String × Event)) :
    GrowsBy (w.textAt p) ((w.emitEach es).textAt p)
      ((es.filter fun e => (e.2.line? e.1).isSome).map fun e => e.2.logged e.1) := by
  induction es generalizing w with
  | nil => exact Event.Log.growsBy_nil_iff.mpr rfl
  | cons e es ih =>
      change GrowsBy _ (((w.emit e.1 e.2).emitEach es).textAt p) _
      cases hline : e.2.line? e.1 with
      | none =>
          have hsame : w.emit e.1 e.2 = w := by rw [Workspace.emit, h.on, hline]
          rw [List.filter_cons_of_neg (by rw [hline]; exact Bool.false_ne_true), hsame]
          exact ih h
      | some line =>
          have hnext := h.put (Event.Log.added (w.textAt p) line)
          have hgrows := ih hnext
          rw [textAt_put] at hgrows
          rw [List.filter_cons_of_pos (by rw [hline]; rfl), List.map_cons, h.emit hline]
          exact Event.Log.growsBy_cons_iff.mpr ⟨line, (Event.line?_eq _ _).symm.trans hline, hgrows⟩

/-- **When the records of a log are bounded.** A log that can be written grows by the records of the
emitted events that have a line, and these are bounded exactly when each of the events has a short
message, and short texts in the lists of its context. It grows by the records of compiling and of
computing a formula, and these are bounded exactly when their messages are short. -/
theorem records_bounded_iff (h : w.WritesAt directory p) :
    (∀ es : List (String × Event),
      let written := es.filter fun e => (e.2.line? e.1).isSome
      GrowsBy (w.textAt p) ((w.emitEach es).textAt p) (written.map fun e => e.2.logged e.1) ∧
      ((∀ e ∈ written, Bounded (e.2.logged e.1)) ↔ ∀ e ∈ written,
        e.2.message.length ≤ textBound ∧
          ∀ s ∈ listedInFields e.2.context, s.length ≤ textBound)) ∧
    ∀ (times : Nat → String) (grid : Option Grid) (elapsed : Float) (text : String),
      (GrowsBy (w.textAt p) ((w.performAt times (compile grid text)).2.textAt p)
          (records times (compile grid text)) ∧
        ((∀ r ∈ records times (compile grid text), Bounded r) ↔
          ∀ e ∈ (compile grid text).events, e.message.length ≤ textBound)) ∧
      (GrowsBy (w.textAt p)
          ((w.performAt times (compute grid (.real elapsed) text)).2.textAt p)
          (records times (compute grid (.real elapsed) text)) ∧
        ((∀ r ∈ records times (compute grid (.real elapsed) text), Bounded r) ↔
          ∀ e ∈ (compute grid (.real elapsed) text).events, e.message.length ≤ textBound)) := by
  refine ⟨fun es => ⟨h.growsBy_emitEach es, ?_⟩, fun times grid elapsed text => ⟨?_, ?_⟩⟩
  · exact forall₂_congr fun e _ => Event.bounded_logged_iff e.1 e.2
  · exact h.performAt (Computation.logsPlain_compile grid text) times
  · exact h.performAt (Computation.logsPlain_compute grid elapsed text) times

/-- A workspace with an empty log. -/
def freshlyOn : Workspace := ⟨⟨[], [["logs"]], []⟩, some ["logs"]⟩

/-- A log that was just turned on can be written. -/
theorem writesAt_freshlyOn : freshlyOn.WritesAt ["logs"] ["logs", "events.ndjson"] :=
  ⟨rfl, by cbv, rfl⟩

/-- An event whose context can be written is not left out. -/
theorem filter_listing (s : String) :
    ([("TS", listing s)].filter fun e => (e.2.line? e.1).isSome) = [("TS", listing s)] := by
  obtain ⟨line, hline, -⟩ := Event.exists_line? (Event.hasProperContext_listing s) "TS"
  exact List.filter_cons_of_pos (by rw [hline]; rfl)

/-- A short text in a list leaves a bounded record. -/
theorem records_bounded_iff_short : freshlyOn.WritesAt ["logs"] ["logs", "events.ndjson"] ∧
    GrowsBy "" ((freshlyOn.emitEach [("TS", listing "x")]).textAt ["logs", "events.ndjson"])
      [(listing "x").logged "TS"] ∧ Bounded ((listing "x").logged "TS") := by
  obtain ⟨hgrows, hbounded⟩ := (records_bounded_iff writesAt_freshlyOn).1 [("TS", listing "x")]
  rw [filter_listing] at hgrows hbounded
  rw [List.forall_mem_singleton, List.forall_mem_singleton] at hbounded
  refine ⟨writesAt_freshlyOn, hgrows, hbounded.mpr ⟨by decide, ?_⟩⟩
  exact List.forall_mem_singleton.mpr (by decide)

/-- A text of three hundred characters. -/
def longText : String := String.ofList (List.replicate 300 'x')

/-- The long text is beyond the bound. -/
theorem textBound_lt_length_longText : textBound < longText.length := by
  have hlength : longText.length = 300 := String.length_ofList.trans List.length_replicate
  rw [hlength]
  decide

/-- **A record that is not bounded** is written for a long text in a list. -/
theorem not_records_bounded :
    GrowsBy "" ((freshlyOn.emitEach [("TS", listing longText)]).textAt ["logs", "events.ndjson"])
        [(listing longText).logged "TS"] ∧
      ¬Bounded ((listing longText).logged "TS") := by
  have hgrows := writesAt_freshlyOn.growsBy_emitEach [("TS", listing longText)]
  rw [filter_listing] at hgrows
  exact ⟨hgrows, Event.not_bounded_listing textBound_lt_length_longText "TS"⟩

end Workspace

end SheetFormula
