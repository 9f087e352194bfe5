import SheetFormula.Proofs.Containment
import SheetFormula.Proofs.Evaluations
import SheetFormula.Proofs.LogRuns
import SheetFormula.Proofs.Stages

/-!
# The Protocol of Events

What a reader of the log is told of a computation. Reading a formula leaves one record, of the
formula or of the fault in it; evaluating what was read leaves a second one, of the value or of
the fault. Each record of a fault has the message, the name and the code of that fault, and the
stage at which it came up.

## Main results

* `Fault.Kind.tableCode_eq`: the table of codes, searched in its order, gives the code of a kind.
* `Event.tellsFault_logged`, `Event.tellsValue_logged`: what the records of the events tell.
* `Computation.computeProtocol`: **the records of a computation follow the protocol**.
* `Workspace.performAt_protocol`: they are what a log that can be written grows by.
-/

namespace SheetFormula

/-! ### Codes of faults -/

namespace Fault.Kind

/-- The kinds with a code of their own. -/
def codeTable : List (Kind × String) :=
  [(.parentheses, "malformed_parentheses"),
    (.empty, "empty_expression"),
    (.token, "unexpected_token"),
    (.unknownFunction, "unknown_function"),
    (.arity, "arity_mismatch"),
    (.cell, "invalid_cell_reference"),
    (.division, "division_by_zero"),
    (.operator, "unsupported_operator")]

/-- The code of a kind **by the table**: that of the first kind in it that the given one is a
special case of. -/
def tableCode (k : Kind) : String :=
  ((codeTable.find? fun row => k.isA row.1).map (·.2)).getD "formula_error"

/-- The code of a kind is that of the table. -/
theorem tableCode_eq (k : Kind) : k.tableCode = k.code := by
  cases k <;> decide

end Fault.Kind

/-! ### What records tell -/

namespace Event

/-- A record that **tells of a fault** which came up at a stage of a computation. -/
structure TellsFault (stage : String) (f : Fault) (record : Json) : Prop where
  level : record.field? "level" = some (.text "error")
  kind : record.field? "event_type" = some (.text "formula_failed")
  message : record.field? "message" = some (.text f.message)
  code : record.field? "error_code" = some (.text f.kind.tableCode)
  stage : record.inContext? "stage" = some (.text stage)
  name : record.inContext? "error_type" = some (.text f.kind.name)

/-- A record that tells of a **formula that was parsed**. -/
structure TellsParsed (record : Json) : Prop where
  level : record.field? "level" = some (.text "info")
  kind : record.field? "event_type" = some (.text "formula_parsed")
  code : record.field? "error_code" = some .null

/-- A record that **tells of a value**: as text with a warning exactly when it is infinite or not a
number, as the number it is otherwise. -/
structure TellsValue (x : Float) (record : Json) : Prop where
  kind : record.field? "event_type" = some (.text "formula_evaluated")
  level : record.field? "level" =
    some (.text (if Decimal.isFinite x = true then "info" else "warning"))
  code : record.field? "error_code" = some .null
  result : record.inContext? "result" =
    some (if Decimal.isFinite x = true then .real x else .text (Decimal.plainText x))

/-! ### Records of the three events -/

/-- A text within the limit is not cut. -/
theorem cutText_eq_self {s : String} (h : s.length ≤ textLimit) : cutText s = s :=
  if_neg (Nat.not_lt.mpr h)

/-- The text of an infinite value, or of one that is not a number, is not cut. -/
theorem cutText_plainText {x : Float} (h : Decimal.isFinite x = false) :
    cutText (Decimal.plainText x) = Decimal.plainText x := by
  refine cutText_eq_self ?_
  rw [Decimal.plainText, Decimal.Layout.text]
  rw [Decimal.isFinite] at h
  split
  · decide
  · split <;> decide
  · rename_i hx
    rw [hx] at h
    cases h

/-- The record of a failed computation **tells of the fault**. -/
theorem tellsFault_logged (stamp text : String) (stage : Computation.Stage) (f : Fault) :
    TellsFault stage.name f ((Computation.failedEvent text stage f).logged stamp) := by
  have hnames : ((Computation.failedEvent text stage f).context.map Prod.fst).Nodup := by
    simp [Computation.failedEvent]
  have hstage : cutText stage.name = stage.name := cutText_eq_self (by cases stage <;> decide)
  have hname : cutText f.kind.name = f.kind.name :=
    cutText_eq_self (by cases f.kind <;> decide)
  refine ⟨rfl, rfl, rfl, ?_, ?_, ?_⟩
  · rw [Fault.Kind.tableCode_eq]
    rfl
  · rw [inContext?_logged hnames]
    exact congrArg (fun s => some (Json.text s)) hstage
  · rw [inContext?_logged hnames]
    exact congrArg (fun s => some (Json.text s)) hname

/-- The record of a formula tells that it was parsed. -/
theorem tellsParsed_logged (stamp text : String) (f : Formula Float) :
    TellsParsed ((Computation.parsedEvent text f).logged stamp) :=
  ⟨rfl, rfl, rfl⟩

/-- The record of an evaluation **tells of the value**. -/
theorem tellsValue_logged (stamp text : String) (elapsed : Json) (x : Float) :
    TellsValue x ((Computation.evaluatedEvent text elapsed x).logged stamp) := by
  rw [Computation.evaluatedEvent]
  cases hx : Decimal.isFinite x with
  | true =>
      refine ⟨rfl, by rw [hx]; rfl, rfl, ?_⟩
      rw [if_pos rfl, inContext?_logged (by simp), hx]
      change some (finite (.real x)).sorted = some (.real x)
      rw [finite, if_pos hx]
      rfl
  | false =>
      refine ⟨rfl, by rw [hx]; rfl, rfl, ?_⟩
      rw [if_neg Bool.false_ne_true, inContext?_logged (by simp), hx]
      exact congrArg (fun s => some (Json.text s)) (cutText_plainText hx)

end Event

namespace Computation

open Event (HasProperContext TellsFault TellsParsed TellsValue)

/-! ### The protocol -/

/-- The event of a fault can be logged. -/
theorem hasProperContext_failedEvent (text : String) (stage : Stage) (f : Fault) :
    (failedEvent text stage f).HasProperContext := by
  refine .record (by simp [failedEvent]) ?_
  simp only [failedEvent, List.forall_mem_cons]
  exact ⟨.text _, .text _, .text _, fun _ h => absurd h List.not_mem_nil⟩

/-- The event of a formula can be logged. -/
theorem hasProperContext_parsedEvent (text : String) (f : Formula Float) :
    (parsedEvent text f).HasProperContext := by
  refine .record (by simp [parsedEvent]) ?_
  simp only [parsedEvent, List.forall_mem_cons]
  exact ⟨.text _, .text _, fun _ h => absurd h List.not_mem_nil⟩

/-- The event of a value can be logged. -/
theorem hasProperContext_evaluatedEvent (text : String) (elapsed x : Float) :
    (evaluatedEvent text (.real elapsed) x).HasProperContext := by
  rw [evaluatedEvent]
  split
  · refine .record (by simp) ?_
    simp only [List.forall_mem_cons]
    exact ⟨.text _, .real trivial, .real trivial, fun _ h => absurd h List.not_mem_nil⟩
  · refine .record (by simp) ?_
    simp only [List.forall_mem_cons]
    exact ⟨.text _, .text _, .real trivial, fun _ h => absurd h List.not_mem_nil⟩

/-- What the log is told when a text is **compiled**, by the end of reading it: the outcome and the
records. -/
inductive CompileProtocol (reading : Except Failure (Formula Float)) :
    Except Failure (Formula Float) → List Json → Prop
  | parsed {f : Formula Float} {r : Json} (hread : reading = .ok f) (hr : TellsParsed r) :
      CompileProtocol reading (.ok f) [r]
  | unread {f : Fault} {r : Json} (hread : reading = .error (.fault f))
      (hr : TellsFault "parse" f r) : CompileProtocol reading (.error (.fault f)) [r]
  /-- A limit was met that is no fault in the formula. -/
  | stopped {e : Failure} (hread : reading = .error e) (he : e.isFault = false) :
      CompileProtocol reading (.error e) []

/-- What the log is told when a text is **computed**, by the end of reading it: the outcome and the
records. -/
inductive ComputeProtocol (reading : Except Failure (Formula Float)) :
    Except Failure Float → List Json → Prop
  | evaluated {f : Formula Float} {x : Float} {r s : Json} (hread : reading = .ok f)
      (hvalue : f.evaluate = .ok x) (hr : TellsParsed r) (hs : TellsValue x s) :
      ComputeProtocol reading (.ok x) [r, s]
  | unevaluated {f : Formula Float} {g : Fault} {r s : Json} (hread : reading = .ok f)
      (hvalue : f.evaluate = .error (.fault g)) (hr : TellsParsed r)
      (hs : TellsFault "evaluate" g s) : ComputeProtocol reading (.error (.fault g)) [r, s]
  | unread {f : Fault} {r : Json} (hread : reading = .error (.fault f))
      (hr : TellsFault "parse" f r) : ComputeProtocol reading (.error (.fault f)) [r]
  /-- A limit was met that is no fault in the formula. -/
  | stopped {e : Failure} (hread : reading = .error e) (he : e.isFault = false) :
      ComputeProtocol reading (.error e) []

section Records

variable {reading : Except Failure (Formula Float)} {outcome : Except Failure Float}
  {records : List Json} {f : Formula Float}

/-- When a text is refused, the log is told of the fault alone. -/
theorem ComputeProtocol.of_refused {fault : Fault}
    (h : ComputeProtocol (.error (.fault fault)) outcome records) :
    ∃ r, TellsFault "parse" fault r ∧ records = [r] := by
  cases h with
  | unread hread hr =>
      obtain rfl := Failure.fault.inj (Except.error.inj hread)
      exact ⟨_, hr, rfl⟩
  | stopped hread he =>
      obtain rfl := Except.error.inj hread
      cases he
  | evaluated hread => cases hread
  | unevaluated hread => cases hread

/-- When a formula has a value, the log is told of the formula and then of the value. -/
theorem ComputeProtocol.of_value {x : Float} (hvalue : f.evaluate = .ok x)
    (h : ComputeProtocol (.ok f) outcome records) :
    ∃ r s, TellsParsed r ∧ TellsValue x s ∧ records = [r, s] := by
  cases h with
  | evaluated hread hvalue' hr hs =>
      obtain rfl := Except.ok.inj hread
      obtain rfl := Except.ok.inj (hvalue.symm.trans hvalue')
      exact ⟨_, _, hr, hs, rfl⟩
  | unevaluated hread hfault =>
      obtain rfl := Except.ok.inj hread
      cases hvalue.symm.trans hfault
  | unread hread => cases hread
  | stopped hread => cases hread

/-- When the evaluation of a formula fails, the log is told of the formula and then of the fault. -/
theorem ComputeProtocol.of_fault {fault : Fault} (hfault : f.evaluate = .error (.fault fault))
    (h : ComputeProtocol (.ok f) outcome records) :
    ∃ r s, TellsParsed r ∧ TellsFault "evaluate" fault s ∧ records = [r, s] := by
  cases h with
  | evaluated hread hvalue =>
      obtain rfl := Except.ok.inj hread
      cases hfault.symm.trans hvalue
  | unevaluated hread hfault' hr hs =>
      obtain rfl := Except.ok.inj hread
      obtain rfl := Failure.fault.inj (Except.error.inj (hfault.symm.trans hfault'))
      exact ⟨_, _, hr, hs, rfl⟩
  | unread hread => cases hread
  | stopped hread => cases hread

end Records

/-- The records of the events of compiling a text follow the protocol. -/
theorem compileProtocol (grid : Option Grid) (text : String) {es : List (String × Event)}
    (hes : es.map Prod.snd = (compile grid text).events) :
    (∀ e ∈ es, e.2.HasProperContext) ∧
      CompileProtocol (read grid text).outcome (compile grid text).outcome
        (es.map fun e => e.2.logged e.1) := by
  rcases compile_cases grid text with
    ⟨f, hread, houtcome, hevents⟩ | ⟨f, hread, houtcome, hevents⟩ |
      ⟨e, he, hread, houtcome, hevents⟩
  · rw [hevents] at hes
    obtain ⟨⟨stamp, _⟩, rfl, rfl⟩ := List.map_eq_singleton_iff.mp hes
    rw [houtcome]
    refine ⟨?_, .parsed hread (Event.tellsParsed_logged stamp text f)⟩
    simpa using hasProperContext_parsedEvent text f
  · rw [hevents] at hes
    obtain ⟨⟨stamp, _⟩, rfl, rfl⟩ := List.map_eq_singleton_iff.mp hes
    rw [houtcome]
    refine ⟨?_, .unread hread (Event.tellsFault_logged stamp text .parse f)⟩
    simpa using hasProperContext_failedEvent text .parse f
  · rw [hevents] at hes
    obtain rfl := List.map_eq_nil_iff.mp hes
    rw [houtcome]
    exact ⟨fun _ h => absurd h List.not_mem_nil, .stopped hread he⟩

/-- The records of the events of computing a text follow the protocol. -/
theorem computeProtocol (grid : Option Grid) (elapsed : Float) (text : String)
    {es : List (String × Event)}
    (hes : es.map Prod.snd = (compute grid (.real elapsed) text).events) :
    (∀ e ∈ es, e.2.HasProperContext) ∧
      ComputeProtocol (read grid text).outcome (compute grid (.real elapsed) text).outcome
        (es.map fun e => e.2.logged e.1) := by
  rw [compute_eq] at hes ⊢
  rw [Trace.outcome_bind]
  rcases compile_cases grid text with
    ⟨f, hread, houtcome, hevents⟩ | ⟨f, hread, houtcome, hevents⟩ |
      ⟨e, he, hread, houtcome, hevents⟩
  · rw [events_bind_of_ok houtcome, hevents, List.singleton_append] at hes
    obtain ⟨⟨stamp, _⟩, rest, rfl, rfl, hrest⟩ := List.map_eq_cons_iff.mp hes
    have hparsed := Event.tellsParsed_logged stamp text f
    rw [houtcome]
    change _ ∧ ComputeProtocol _ (evaluation (.real elapsed) text f).outcome _
    rcases evaluation_cases (.real elapsed) text f with
      ⟨x, hvalue, hend, hlast⟩ | ⟨g, hvalue, hend, hlast⟩ | ⟨e, he, hvalue, -, -⟩
    · rw [hlast] at hrest
      obtain ⟨⟨stamp', _⟩, rfl, rfl⟩ := List.map_eq_singleton_iff.mp hrest
      rw [hend]
      refine ⟨?_, .evaluated hread hvalue hparsed (Event.tellsValue_logged stamp' text _ x)⟩
      simpa using ⟨hasProperContext_parsedEvent text f,
        hasProperContext_evaluatedEvent text elapsed x⟩
    · rw [hlast] at hrest
      obtain ⟨⟨stamp', _⟩, rfl, rfl⟩ := List.map_eq_singleton_iff.mp hrest
      rw [hend]
      refine ⟨?_, .unevaluated hread hvalue hparsed
        (Event.tellsFault_logged stamp' text .evaluate g)⟩
      simpa using ⟨hasProperContext_parsedEvent text f,
        hasProperContext_failedEvent text .evaluate g⟩
    · rw [Formula.isFault_of_evaluate hvalue] at he
      cases he
  · rw [events_bind_of_error houtcome, hevents] at hes
    obtain ⟨⟨stamp, _⟩, rfl, rfl⟩ := List.map_eq_singleton_iff.mp hes
    rw [houtcome]
    refine ⟨?_, .unread hread (Event.tellsFault_logged stamp text .parse f)⟩
    simpa using hasProperContext_failedEvent text .parse f
  · rw [events_bind_of_error houtcome, hevents] at hes
    obtain rfl := List.map_eq_nil_iff.mp hes
    rw [houtcome]
    exact ⟨fun _ h => absurd h List.not_mem_nil, .stopped hread he⟩

end Computation

namespace Workspace

variable {w : Workspace} {directory : FileName} {p : Path}

/-- Events with their times are still the events. -/
theorem map_snd_mapIdx (times : Nat → String) (es : List Event) :
    (es.mapIdx fun i e => (times i, e)).map Prod.snd = es := by
  ext1 i
  simp [Function.comp_def]

/-- **The log is told of compiling and of computing** a text by the records of the protocol, in
their order and nothing else, for every outcome. -/
theorem performAt_protocol (h : w.WritesAt directory p) (times : Nat → String)
    (grid : Option Grid) (elapsed : Float) (text : String) :
    (∃ records,
      Computation.CompileProtocol (Computation.read grid text).outcome
          (w.performAt times (Computation.compile grid text)).1 records ∧
        Event.Log.GrowsBy (w.textAt p)
          ((w.performAt times (Computation.compile grid text)).2.textAt p) records) ∧
    (∃ records,
      Computation.ComputeProtocol (Computation.read grid text).outcome
          (w.performAt times (Computation.compute grid (.real elapsed) text)).1 records ∧
        Event.Log.GrowsBy (w.textAt p)
          ((w.performAt times (Computation.compute grid (.real elapsed) text)).2.textAt p)
          records) := by
  constructor
  · obtain ⟨hproper, hprotocol⟩ := Computation.compileProtocol grid text
      (map_snd_mapIdx times (Computation.compile grid text).events)
    exact ⟨_, hprotocol, (h.emitEach hproper).2⟩
  · obtain ⟨hproper, hprotocol⟩ := Computation.computeProtocol grid elapsed text
      (map_snd_mapIdx times (Computation.compute grid (.real elapsed) text).events)
    exact ⟨_, hprotocol, (h.emitEach hproper).2⟩

/-- The fault in an empty formula is told at the stage of reading, and nothing else; a formula that
is read is told of first, and then its value, or the fault in evaluating it. -/
theorem performAt_protocol_computed :
    let w : Workspace := ⟨⟨[], [["logs"]], []⟩, some ["logs"]⟩
    let told (text : String) : List Json → Prop :=
      Event.Log.GrowsBy "" ((w.performAt (fun _ => "TS")
        (Computation.compute none (.real 0) text)).2.textAt ["logs", "events.ndjson"])
    (∃ r, Event.TellsFault "parse" .emptyExpression r ∧ told "=" [r]) ∧
    (∃ r s, Event.TellsParsed r ∧ Event.TellsValue 1 s ∧ told "=1" [r, s]) ∧
    ∃ r s, Event.TellsParsed r ∧ Event.TellsFault "evaluate" .divisionByZero s ∧
      told "=1/0" [r, s] := by
  intro w told
  have hwrites : w.WritesAt ["logs"] ["logs", "events.ndjson"] := ⟨rfl, by cbv, rfl⟩
  have htold (text : String) : ∃ outcome records,
      Computation.ComputeProtocol (Computation.read none text).outcome outcome records ∧
        told text records := by
    obtain ⟨records, hprotocol, hgrows⟩ :=
      (performAt_protocol hwrites (fun _ => "TS") none 0 text).2
    exact ⟨_, records, hprotocol, hgrows⟩
  refine ⟨?_, ?_, ?_⟩
  · have hread : (Computation.read none "=").outcome = .error (.fault .emptyExpression) := by cbv
    obtain ⟨outcome, records, hprotocol, hgrows⟩ := htold "="
    rw [hread] at hprotocol
    obtain ⟨r, hr, rfl⟩ := hprotocol.of_refused
    exact ⟨r, hr, hgrows⟩
  · have hone : Derives (resolve none) .term [⟨.number, "1"⟩] (.leaf 1) :=
      .oneFactor (.number rfl (by decide))
    have hread : (Computation.read none "=1").outcome = .ok (.leaf 1) :=
      (Computation.outcome_read_eq_ok_iff (by cbv)).mpr hone.ofTerm
    obtain ⟨outcome, records, hprotocol, hgrows⟩ := htold "=1"
    rw [hread] at hprotocol
    obtain ⟨r, s, hr, hs, rfl⟩ := hprotocol.of_value (Formula.evaluate_leaf 1)
    exact ⟨r, s, hr, hs, hgrows⟩
  · have hread : (Computation.read none "=1/0").outcome =
        .ok (.binary "/" (.leaf 1) (.leaf 0)) :=
      (Computation.outcome_read_eq_ok_iff (by cbv)).mpr Computation.derives_oneByZero
    obtain ⟨outcome, records, hprotocol, hgrows⟩ := htold "=1/0"
    rw [hread] at hprotocol
    obtain ⟨r, s, hr, hs, rfl⟩ := hprotocol.of_fault Computation.evaluate_oneByZero
    exact ⟨r, s, hr, hs, hgrows⟩

end Workspace

end SheetFormula
