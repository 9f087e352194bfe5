import SheetFormula.Proofs.LogAnswers
import SheetFormula.Proofs.ShownEvents
import SheetFormula.Proofs.ShownValues

/-!
# Logs That Are Not Read

A line of the log may hold any value at all. Lines that hold none are skipped, but a value that is
no record is read as if it were an event. A filter stops at such a value, and the command `events`
stops where it shows one, as it does at an event whose level is no text, or of which a text is to be
printed that has halves of characters. An integer with too many digits stops the reading itself.

So a log is read, and shown, exactly when none of this is in it where it matters: the filters look
at all values, while only the values that are asked for, up to the limit, are shown.

## Main results

* `Command.Run.finishes_showEvent_iff`: which values are shown as events.
* `Command.Run.finishes_events_iff`: when the command `events` comes to its end.
* `Command.Line.events_answered_iff`: **when a log is read as events**, and when the command line
  that shows them ends with 0.
* `Command.Line.not_events_answered`: the log of a bare number, the event whose level is no text,
  and the one whose message is half of a character.
-/

namespace SheetFormula.Command

open Event.Log (valuesOf Readable HoldsRecords)

/-! ### Runs that come to their end -/

namespace Run

variable {α β : Type}

/-- A run **finishes** when nothing stops it. -/
def Finishes (m : Run α) (p : Progress) : Prop := ∃ a q, m.runFrom p = (.ok a, q)

/-- Behind a step that succeeds, a run finishes when the rest of it does. -/
theorem finishes_bind {m : Run α} {p q : Progress} {a : α} (h : m.runFrom p = (.ok a, q))
    (k : α → Run β) : Finishes (m >>= k) p ↔ Finishes (k a) q := by
  rw [Finishes, Finishes, runFrom_bind_of_ok h]

/-- A step that fails does not finish. -/
theorem not_finishes_of_error {m : Run α} {p q : Progress} {stop : Stop}
    (h : m.runFrom p = (.error stop, q)) : ¬Finishes m p := by
  rintro ⟨a, q', hok⟩
  rw [h] at hok
  cases hok

/-- Printing a line finishes. -/
theorem finishes_print (line : String) (p : Progress) : Finishes (print line) p := ⟨(), _, rfl⟩

/-- A list is gone through to its end when no step of it stops. -/
theorem finishes_forM_iff {f : α → Run Unit} {P : α → Prop} {as : List α}
    (hf : ∀ a ∈ as, ∀ p, Finishes (f a) p ↔ P a) (p : Progress) :
    Finishes (as.forM f) p ↔ ∀ a ∈ as, P a := by
  induction as generalizing p with
  | nil => exact ⟨fun _ _ h => absurd h List.not_mem_nil, fun _ => ⟨(), p, rfl⟩⟩
  | cons a r ih =>
      rw [List.forall_mem_cons] at hf
      rw [List.forM, List.forall_mem_cons, ← hf.1 p]
      cases hrun : (f a).runFrom p with
      | mk x q =>
          cases x with
          | ok u =>
              rw [finishes_bind hrun, ih hf.2]
              exact ⟨fun h => ⟨⟨u, q, hrun⟩, h⟩, fun h => h.2⟩
          | error stop =>
              have hbind := runFrom_bind_of_error hrun fun _ : Unit => r.forM f
              exact ⟨fun h => absurd h (not_finishes_of_error hbind),
                fun h => absurd h.1 (not_finishes_of_error hrun)⟩

/-- The names of what is printed of an event. -/
def printedNames : List String := ["level", "ts", "event_type", "message", "error_code"]

/-- A value that can be **shown as an event**: a record whose level is a text, or that has none, and
in which no text that is printed has halves of characters. -/
def Showable (v : Json LooseText) : Prop :=
  ∃ fields, v = .record fields ∧
    (∀ j, Json.lookup (.whole "level") fields = some j → ∃ s, j = .text s) ∧
    ∀ name ∈ printedNames, ∀ s, Json.lookup (.whole name) fields = some (.text s) →
      ∃ t, s = .whole t

/-- A record is shown as an event by its fields. -/
theorem showable_record_iff {fields : Fields} : Showable (.record fields) ↔
    (∀ j, Json.lookup (.whole "level") fields = some j → ∃ s, j = .text s) ∧
    ∀ name ∈ printedNames, ∀ s, Json.lookup (.whole name) fields = some (.text s) →
      ∃ t, s = .whole t := by
  constructor
  · rintro ⟨fields', hfields, h⟩
    rwa [Json.record.inj hfields]
  · exact fun h => ⟨fields, rfl, h⟩

section Fields

variable {fields : Fields} (h : (Json.record fields).CanBeShown)

include h

/-- A field has a text that is printed, unless it is a text with halves of characters. -/
theorem isSome_fieldText?_iff (name : String) : (fieldText? fields name).isSome = true ↔
    ∀ s, Json.lookup (.whole name) fields = some (.text s) → ∃ t, s = .whole t := by
  rw [fieldText?]
  cases hv : Json.lookup (.whole name) fields with
  | none => exact iff_of_true rfl fun _ hs => nomatch hs
  | some v =>
      simp only [Option.some.injEq]
      exact Json.isSome_text?_iff (Json.canBeShown_of_lookup h hv)

/-- The same is so of the code of an event: an empty text, which is not printed, has no halves. -/
theorem isSome_codePart?_iff : (codePart? fields).isSome = true ↔
    ∀ s, Json.lookup (.whole "error_code") fields = some (.text s) → ∃ t, s = .whole t := by
  rw [codePart?]
  cases hv : Json.lookup (.whole "error_code") fields with
  | none =>
      refine iff_of_true rfl ?_
      intro s hs
      cases hs
  | some v =>
      simp only [Option.some.injEq]
      cases htrue : v.truthyBy LooseText.isEmpty with
      | true =>
          rw [if_pos rfl, Option.isSome_map]
          exact Json.isSome_text?_iff (Json.canBeShown_of_lookup h hv)
      | false =>
          rw [if_neg Bool.false_ne_true]
          refine iff_of_true rfl ?_
          rintro s rfl
          cases s with
          | whole t => exact ⟨t, rfl⟩
          | torn letters hhalf => cases htrue

/-- **An event has a line** when no text that is printed of it has halves of characters. -/
theorem isSome_eventLine?_iff (level : LooseText) : (eventLine? fields level).isSome = true ↔
    (∃ t, level = .whole t) ∧ ∀ name ∈ ["ts", "event_type", "message", "error_code"],
      ∀ s, Json.lookup (.whole name) fields = some (.text s) → ∃ t, s = .whole t := by
  have hlevel : (∃ t, level = .whole t) ↔ level.string?.isSome = true := by
    cases level with
    | whole t => exact iff_of_true ⟨t, rfl⟩ rfl
    | torn letters hhalf => exact iff_of_false (fun ⟨_, ht⟩ => nomatch ht) Bool.false_ne_true
  rw [List.forall_mem_cons, List.forall_mem_cons, List.forall_mem_cons, List.forall_mem_singleton,
    ← isSome_fieldText?_iff h, ← isSome_fieldText?_iff h, ← isSome_fieldText?_iff h,
    ← isSome_codePart?_iff h, hlevel, eventLine?]
  cases fieldText? fields "ts" <;> cases level.string? <;>
    cases fieldText? fields "event_type" <;> cases fieldText? fields "message" <;>
    cases codePart? fields <;> simp

end Fields

/-- A record with a level is shown when it has a line. -/
theorem finishes_showEvent_record {fields : Fields} {level : LooseText}
    (hlevel : levelOf? fields = some level) (p : Progress) :
    Finishes (showEvent (.record fields)) p ↔ (eventLine? fields level).isSome = true := by
  cases hline : eventLine? fields level with
  | some line =>
      rw [showEvent_record hlevel hline]
      exact iff_of_true (finishes_print line p) rfl
  | none =>
      have hstop : (showEvent (.record fields)).runFrom p = (.error (.crashed .torn), p) := by
        rw [showEvent]
        dsimp only [Json.fields?]
        rw [hlevel]
        dsimp only
        rw [hline]
        rfl
      exact iff_of_false (not_finishes_of_error hstop) Bool.false_ne_true

/-- **A value of the log is shown** exactly when it can be shown as an event. -/
theorem finishes_showEvent_iff {v : Json LooseText} (hv : v.CanBeShown) (p : Progress) :
    Finishes (showEvent v) p ↔ Showable v := by
  cases v with
  | record fields =>
      rw [showable_record_iff, printedNames, List.forall_mem_cons]
      cases hlevel : Json.lookup (.whole "level") fields with
      | none =>
          have hnone : levelOf? fields = some (.whole "") := by rw [levelOf?, hlevel]
          rw [finishes_showEvent_record hnone, isSome_eventLine?_iff hv]
          simp only [reduceCtorEq, false_implies, implies_true, true_and, LooseText.whole.injEq,
            exists_eq']
      | some j =>
          simp only [Option.some.injEq, forall_eq']
          cases j with
          | text s =>
              have hsome : levelOf? fields = some s := by
                rw [levelOf?, hlevel]
                rfl
              rw [finishes_showEvent_record hsome, isSome_eventLine?_iff hv]
              simp only [Json.text.injEq, forall_eq', exists_eq', true_and]
          | null | bool b | whole i | real x | list items | record fields' =>
              have hstop : (showEvent (.record fields)).runFrom p =
                  (.error (.crashed .levelNotText), p) := by
                rw [showEvent]
                dsimp only [Json.fields?]
                rw [levelOf?, hlevel]
                rfl
              refine iff_of_false (not_finishes_of_error hstop) ?_
              rintro ⟨⟨s, hs⟩, -⟩
              cases hs
  | null | bool b | whole i | real x | text s | list items =>
      refine iff_of_false (not_finishes_of_error rfl) ?_
      rintro ⟨fields, hfields, -⟩
      cases hfields

end Run

/-! ### Reading -/

namespace Choice

variable {c : Choice} {log : String}

/-- A log **answers** a choice with events: no line blocks, all values are records if the choice
filters, and what is asked for is, up to the limit. -/
structure Answers (c : Choice) (log : String) : Prop where
  readable : Readable log
  filtered : c.Filters → HoldsRecords log
  records : ∀ v ∈ (c.matching log).take c.limit.toNat, v.IsRecord

/-- A log **can be shown** to a choice when it answers with events that can be shown. -/
structure Shows (c : Choice) (log : String) : Prop extends c.Answers log where
  showable : ∀ v ∈ (c.matching log).take c.limit.toNat, Run.Showable v

/-- A limit that is not negative takes so many of the values that match. -/
theorem limited_matching (hlimit : 0 ≤ c.limit) :
    Event.Log.limited (some c.limit) (c.matching log) =
      (c.matching log).take c.limit.toNat := by
  rw [Event.Log.limited, if_pos hlimit]

/-- **A log is read as events** when it answers. -/
theorem exists_records_iff (hlimit : 0 ≤ c.limit) :
    (∃ es, Event.Log.read (Run.filterOf c) log = .ok es ∧ ∀ e ∈ es, e.IsRecord) ↔
      c.Answers log := by
  simp only [read_eq_ok_iff, limited_matching hlimit]
  constructor
  · rintro ⟨_, ⟨hreadable, hfiltered, rfl⟩, hrecords⟩
    exact ⟨hreadable, hfiltered, hrecords⟩
  · rintro ⟨hreadable, hfiltered, hrecords⟩
    exact ⟨_, ⟨hreadable, hfiltered, rfl⟩, hrecords⟩

/-- What a log answers can be shown, since it was read. -/
theorem canBeShown_of_mem_read {es : List (Json LooseText)}
    (hread : Event.Log.read (Run.filterOf c) log = .ok es) {v : Json LooseText} (hv : v ∈ es) :
    v.CanBeShown := by
  obtain ⟨-, -, rfl⟩ := read_eq_ok_iff.mp hread
  rw [Event.Log.limited_eq_take, matching] at hv
  have hvalue := (List.mem_filter.mp (List.mem_reverse.mp (List.mem_of_mem_take hv))).1
  obtain ⟨line, -, hline⟩ := List.mem_filterMap.mp hvalue
  rw [Event.Log.valueOf?] at hline
  cases hparse : Json.parse (String.ofList (Text.trimBlanks line)) with
  | error e =>
      rw [hparse] at hline
      cases hline
  | ok w =>
      rw [hparse] at hline
      exact Option.some.inj hline ▸ Json.canBeShown_of_parse hparse

/-- **What is asked for of a log is shown** when the log can be shown. -/
theorem finishes_showLog_iff (hlimit : 0 ≤ c.limit) (p : Progress) :
    Run.Finishes (Run.showLog c log) p ↔ c.Shows log := by
  rw [Run.showLog]
  cases hread : Event.Log.read (Run.filterOf c) log with
  | error f =>
      refine ⟨fun h => absurd h (Run.not_finishes_of_error (Run.runFrom_orCrash_error_bind f _)),
        fun h => ?_⟩
      obtain ⟨es, hes, -⟩ := (exists_records_iff hlimit).mpr h.toAnswers
      rw [hread] at hes
      cases hes
  | ok es =>
      obtain ⟨hreadable, hfiltered, hes⟩ := read_eq_ok_iff.mp hread
      rw [limited_matching hlimit] at hes
      have hshows : c.Shows log ↔ ∀ v ∈ es, Run.Showable v := by
        refine ⟨fun h => hes ▸ h.showable, fun h => ?_⟩
        rw [hes] at h
        refine ⟨⟨hreadable, hfiltered, fun v hv => ?_⟩, h⟩
        obtain ⟨fields, hfields, -⟩ := h v hv
        exact ⟨fields, hfields⟩
      have hfound : (Run.orCrash Crash.log (.ok es)).runFrom p = (.ok es, p) := rfl
      rw [Run.finishes_bind hfound, hshows]
      cases es with
      | nil => exact ⟨fun _ _ h => absurd h List.not_mem_nil, fun _ => Run.finishes_print _ p⟩
      | cons e r =>
          exact Run.finishes_forM_iff
            (fun v hv p => Run.finishes_showEvent_iff (canBeShown_of_mem_read hread hv) p) p

end Choice

/-! ### The command line -/

/-- Files in which the **log of a directory** is a text: the settings of the directory name a place
for the log, and there is a file with the text. -/
def HasLog (files : Files) (directory : FileName) (log : String) : Prop :=
  ∃ settings place, Settings.load files directory = .ok settings ∧
    settings.logDirectory? directory = some place ∧
    files.exists? (Workspace.logFile place) = .ok true ∧
    ∃ space, (⟨files, none⟩ : Workspace).logText place = .ok (log, space)

variable {files : Files} {directory : FileName} {log : String} {c : Choice}

/-- **The command that shows the log** finishes when the log can be shown. -/
theorem Run.finishes_events_iff (hlog : HasLog files directory log) (hlimit : 0 ≤ c.limit) :
    Finishes (events directory c) ⟨"", ⟨files, none⟩⟩ ↔ c.Shows log := by
  obtain ⟨settings, place, hload, hplace, hexists, space, htext⟩ := hlog
  rw [Finishes, runFrom_events hload hplace, hexists, htext]
  exact Choice.finishes_showLog_iff hlimit ⟨"", space⟩

namespace Line

/-- A command line ends with 0 when its command finishes. -/
theorem code_eq_zero_iff {l : Line} {cmd : Command} (hread : Command.read files l.words = .ok cmd) :
    (l.run files).code = 0 ↔
      Run.Finishes (cmd.run l.stamp (.real l.elapsed)) ⟨"", ⟨files, none⟩⟩ := by
  rw [run_of_ok hread]
  cases hrun : Run.runFrom (cmd.run l.stamp (.real l.elapsed)) ⟨"", ⟨files, none⟩⟩ with
  | mk x p =>
      cases x with
      | ok u => exact ⟨fun _ => ⟨u, p, hrun⟩, fun _ => rfl⟩
      | error stop =>
          refine ⟨fun h => ?_, fun h => absurd h (Run.not_finishes_of_error hrun)⟩
          cases stop <;> cases h

/-- **When a log is read as events.** Reading a log for a choice gives records only, exactly when no
line blocks, all values are records if the choice filters, and those that are asked for are records
up to the limit. The command line that shows them ends with 0 exactly when, besides, each of these
has a text as its level or none at all, and no text that is printed of them has halves of
characters. -/
theorem events_answered_iff (hlimit : 0 ≤ c.limit) :
    ((∃ es, Event.Log.read (Run.filterOf c) log = .ok es ∧ ∀ e ∈ es, e.IsRecord) ↔
      c.Answers log) ∧
    ∀ (files : Files) (l : Line) (text : String), HasLog files (FileName.ofText text) log →
      Command.read files l.words = .ok (.events text c) →
      ((l.run files).code = 0 ↔ c.Shows log) :=
  ⟨Choice.exists_records_iff hlimit, fun _ _ _ hlog hread =>
    (code_eq_zero_iff hread).trans (Run.finishes_events_iff hlog hlimit)⟩

/-- Files in which the default log is a text. -/
def defaultLog (log : String) : Files := ⟨[(["logs", "events.ndjson"], log)], [["logs"]], []⟩

/-- The files with a log at the default place have this log. -/
theorem hasLog_defaultLog (log : String) : HasLog (defaultLog log) [] log := by
  refine ⟨Settings.defaults, ["logs"], Settings.load_of_absent ?_, ?_, ?_,
    ⟨defaultLog log, none⟩, ?_⟩
  · cbv
  · cbv
  · cbv
  · cbv

/-- Without filters, a log of few values can be shown when each of them can. -/
theorem shows_all_iff {vs : List (Json LooseText)}
    (hvalues : Event.Log.values (Text.lines log.toList) = .ok vs) (hlength : vs.length ≤ 100) :
    Choice.Shows ⟨none, none, 100⟩ log ↔ ∀ v ∈ vs, Run.Showable v := by
  obtain ⟨hreadable, hvs⟩ := Event.Log.values_eq_ok_iff.mp hvalues
  have hall : vs.filter (Choice.wants ⟨none, none, 100⟩) = vs :=
    List.filter_eq_self.mpr fun _ _ => rfl
  have hshown : (Choice.matching ⟨none, none, 100⟩ log).take (100 : Int).toNat = vs.reverse := by
    rw [Choice.matching, valuesOf, ← hvs, hall,
      List.take_of_length_le (by rwa [List.length_reverse])]
  constructor
  · intro h v hv
    exact h.showable v (by rwa [hshown, List.mem_reverse])
  · intro h
    have hshowable : ∀ v ∈ vs.reverse, Run.Showable v := fun v hv => h v (List.mem_reverse.mp hv)
    refine ⟨⟨hreadable, ?_, ?_⟩, ?_⟩
    · rintro (hasks | hasks) <;> cases hasks
    · rw [hshown]
      intro v hv
      obtain ⟨fields, hfields, -⟩ := hshowable v hv
      exact ⟨fields, hfields⟩
    · rwa [hshown]

/-- The command line that shows the default log. -/
def showing : Line := ⟨["events"], "t", 0⟩

/-- The events of the log with two of them can be shown. -/
theorem showable_twoEvents :
    ∀ v ∈ [Json.record [(.whole "level", .text (.whole "info"))],
      .record [(.whole "level", .text (.whole "error"))]], Run.Showable v := by
  have hlevel (level : String) :
      Run.Showable (.record [(.whole "level", .text (.whole level))]) := by
    refine ⟨_, rfl, fun j hj => ⟨_, (Option.some.inj hj).symm⟩, ?_⟩
    simp only [Run.printedNames, List.forall_mem_cons]
    refine ⟨fun s hs => ⟨level, (Json.text.inj (Option.some.inj hs)).symm⟩, ?_⟩
    exact ⟨nofun, nofun, nofun, nofun, fun _ h => absurd h List.not_mem_nil⟩
  rw [List.forall_mem_cons, List.forall_mem_singleton]
  exact ⟨hlevel "info", hlevel "error"⟩

/-- A log of two events is read and shown. -/
theorem events_answered_iff_two : (0 : Int) ≤ 100 ∧
    (∃ es, Event.Log.read (Run.filterOf ⟨none, none, 100⟩) Choice.twoEvents = .ok es ∧
      ∀ e ∈ es, e.IsRecord) ∧
    (showing.run (defaultLog Choice.twoEvents)).code = 0 := by
  obtain ⟨hread, hcode⟩ := @events_answered_iff Choice.twoEvents ⟨none, none, 100⟩ (by decide)
  have hshows := (shows_all_iff Choice.values_twoEvents (by decide)).mpr showable_twoEvents
  have hlog : HasLog (defaultLog Choice.twoEvents) (FileName.ofText ".") Choice.twoEvents := by
    rw [ofText_point]
    exact hasLog_defaultLog _
  exact ⟨by decide, hread.mpr hshows.toAnswers,
    (hcode _ showing "." hlog (read_events _)).mpr hshows⟩

/-- Showing a log whose only value cannot be shown ends with an error. -/
theorem code_showing_ne_zero {v : Json LooseText}
    (hvalues : Event.Log.values (Text.lines log.toList) = .ok [v]) (hv : ¬Run.Showable v) :
    (showing.run (defaultLog log)).code ≠ 0 := by
  rw [Ne, code_eq_zero_iff (read_events _), Command.run, ofText_point,
    Run.finishes_events_iff (hasLog_defaultLog log) (by decide), shows_all_iff hvalues (by simp),
    List.forall_mem_singleton]
  exact hv

/-- A log that is a bare number. -/
def bareNumber : String := "1\n"

/-- A log of an event whose level is a list. -/
def listLevel : String := "\x7b\"level\": []\x7d\n"

/-- A log of an event whose message is half of a character. -/
def halfMessage : String := "\x7b\"message\": \"\\ud800\"\x7d\n"

/-- The values of the log with a bare number. -/
theorem values_bareNumber : Event.Log.values (Text.lines bareNumber.toList) = .ok [.whole 1] :=
  rfl

/-- The values of the log with a list for a level. -/
theorem values_listLevel : Event.Log.values (Text.lines listLevel.toList) =
    .ok [.record [(.whole "level", .list [])]] := by
  cbv

/-- The half of a character that the message is. -/
def highHalf : LooseText := .torn [.half ⟨0xd800, by decide⟩] rfl

/-- The values of the log with half of a pair for a message. -/
theorem values_halfMessage : Event.Log.values (Text.lines halfMessage.toList) =
    .ok [.record [(.whole "message", .text highHalf)]] := by
  cbv

/-- **What is no record is read as an event.** A log that is a bare number answers with it, and a
filter stops at it; the command line that shows the log fails, also for a record whose level is
a list, or whose message is half of a character. -/
theorem not_events_answered :
    (∃ es, Event.Log.read (Run.filterOf ⟨none, none, 100⟩) bareNumber = .ok es ∧
      ¬∀ e ∈ es, e.IsRecord) ∧
    Event.Log.read (Run.filterOf ⟨some "info", none, 100⟩) bareNumber = .error .notRecord ∧
    (showing.run (defaultLog bareNumber)).code ≠ 0 ∧
    (showing.run (defaultLog listLevel)).code ≠ 0 ∧
    (showing.run (defaultLog halfMessage)).code ≠ 0 := by
  refine ⟨⟨[.whole 1], ?_, fun h => ?_⟩, ?_, code_showing_ne_zero values_bareNumber ?_,
    code_showing_ne_zero values_listLevel ?_, code_showing_ne_zero values_halfMessage ?_⟩
  · rw [Event.Log.read, values_bareNumber]
    rfl
  · obtain ⟨fields, hfields⟩ := h _ (List.mem_singleton.mpr rfl)
    cases hfields
  · rw [Event.Log.read, values_bareNumber]
    rfl
  · rintro ⟨fields, hfields, -⟩
    cases hfields
  · rintro ⟨fields, hfields, htext, -⟩
    obtain rfl := Json.record.inj hfields
    obtain ⟨s, hs⟩ := htext (.list []) rfl
    cases hs
  · rintro ⟨fields, hfields, -, hprinted⟩
    obtain rfl := Json.record.inj hfields
    obtain ⟨t, ht⟩ := hprinted "message" (by decide) highHalf rfl
    cases ht

end Line

end SheetFormula.Command
