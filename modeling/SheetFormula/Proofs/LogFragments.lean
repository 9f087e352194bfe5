import SheetFormula.Proofs.JsonFragments
import SheetFormula.Proofs.LogRuns

/-!
# Events behind a Damaged Log

An event is added at the end of the log, whatever the log holds, and the reader finds the lines
again afterwards. When the log ends in the middle of a line, the new line goes on with that line,
and the two together have no value. So the event is lost.

## Main results

* `Event.Log.values_added_iff`: a line that is added is read as its record exactly when only blanks
  stand behind the last line end of the log.
* `Workspace.events_emit_survives_iff`: **a new event survives** exactly in that case.
-/

namespace SheetFormula

/-! ### What survives -/

namespace Event.Log

open Text (isBlank fragment lines)

/-- White space of the notation is blank. -/
theorem isBlank_of_isSpace {c : Char} (hc : Json.isSpace c = true) : isBlank c = true := by
  simp only [Json.isSpace, Bool.or_eq_true, beq_iff_eq] at hc
  rcases hc with ((rfl | rfl) | rfl) | rfl <;> decide

/-- Behind a fragment that is not blank, a line is lost: the two together have no value. -/
theorem values_of_glued {e : Event} (he : e.HasProperContext) {stamp line : String}
    (hline : e.line? stamp = some line) {f : List Char} (hf : ¬ ∀ c ∈ f, isBlank c = true)
    {us : List (Json LooseText)} (hus : values [f ++ line.toList] = .ok us) : us = [] := by
  obtain ⟨line', hline', hwrites, cs, hcs⟩ := exists_line? he stamp
  obtain rfl := Option.some.inj (hline.symm.trans hline')
  have hne : f.dropWhile isBlank ≠ [] := fun hnil => hf (List.dropWhile_eq_nil_iff.mp hnil)
  obtain ⟨c, s, hcs'⟩ := List.exists_cons_of_ne_nil hne
  have hc : isBlank c = false := by
    have hhead := List.head?_dropWhile_not isBlank f
    rwa [hcs'] at hhead
  have htrim : Text.trimBlanks (f ++ line.toList) = c :: (s ++ line.toList) := by
    have hsplit : f ++ line.toList = f.takeWhile isBlank ++ (c :: (s ++ line.toList)) := by
      rw [← List.cons_append, ← hcs', ← List.append_assoc, List.takeWhile_append_dropWhile]
    rw [hsplit]
    refine Text.trimBlanks_append (fun d hd => List.mem_takeWhile_imp hd) (fun d hd => ?_)
      (fun d hd => ?_)
    · rw [← Option.some.inj hd]
      exact hc
    · rw [hcs, ← List.cons_append, ← List.cons_append, ← List.cons_append, ← List.cons_append,
        ← List.append_assoc, List.getLast?_concat] at hd
      rw [← Option.some.inj hd]
      rfl
  have hspace : Json.isSpace c = false := by
    rw [← Bool.not_eq_true]
    intro hspace
    rw [isBlank_of_isSpace hspace] at hc
    cases hc
  have hlost : ∀ v, Json.parse (String.ofList (c :: (s ++ line.toList))) ≠ .ok v := by
    rw [hcs] at hwrites ⊢
    have hhead : ∀ d ∈ (c :: s).head?, Json.isSpace d = false := by
      intro d hd
      rw [← Option.some.inj hd]
      exact hspace
    have hne' := Json.parse_ne_ok hwrites hhead (List.cons_ne_nil c s)
    rwa [List.cons_append] at hne'
  rw [values, htrim] at hus
  simp only [List.isEmpty_cons, Bool.false_eq_true, if_false] at hus
  split at hus
  · rename_i v hv
    exact absurd hv (hlost v)
  · exact (Except.ok.inj hus).symm
  · cases hus

/-- **A new event survives** exactly when only blanks stand behind the last line end of the log:
then it is read behind what the log held before. Behind anything else it is lost. -/
theorem values_added_iff {e : Event} (he : e.HasProperContext) {stamp line : String}
    (hline : e.line? stamp = some line) {log : String} {vs : List (Json LooseText)}
    (hvs : values (lines log.toList) = .ok vs) :
    values (lines (added log line).toList) = .ok (vs ++ [(e.logged stamp).loose]) ↔
      ∀ c ∈ fragment log.toList, isBlank c = true := by
  constructor
  · intro h
    by_contra hblank
    obtain ⟨hne, hnot⟩ := not_isLineEnd_of_line he hline
    obtain ⟨ls, hlog, hadded⟩ := exists_lines_added hne hnot log
    rw [hlog, values_append] at hvs
    rw [hadded, values_append] at h
    cases hls : values ls with
    | error f =>
        rw [hls] at hvs
        cases hvs
    | ok us =>
        rw [hls] at hvs h
        simp only [Except.bind] at hvs h
        cases hglued : values [fragment log.toList ++ line.toList] with
        | error f =>
            rw [hglued] at h
            cases h
        | ok ws =>
            obtain rfl := values_of_glued he hline hblank hglued
            rw [hglued] at h
            cases hfragment : values (if (fragment log.toList).isEmpty then []
              else [fragment log.toList]) with
            | error f =>
                rw [hfragment] at hvs
                cases hvs
            | ok ws =>
                rw [hfragment] at hvs
                have hlength := congrArg List.length (Except.ok.inj h)
                rw [← Except.ok.inj hvs] at hlength
                simp only [List.length_append, List.length_nil, List.length_cons] at hlength
                omega
  · intro hblank
    rw [values_added_of_blank he hline hblank, hvs]
    rfl

/-- Each line has at most one value. -/
theorem length_values_le {ls : List (List Char)} {vs : List (Json LooseText)}
    (h : values ls = .ok vs) :
    vs.length ≤ ls.length := by
  induction ls generalizing vs with
  | nil =>
      obtain rfl := Except.ok.inj h
      exact Nat.le_refl 0
  | cons l r ih =>
      rw [values] at h
      rw [List.length_cons]
      split at h
      · exact Nat.le_succ_of_le (ih h)
      · split at h
        · cases hr : values r with
          | error f =>
              rw [hr] at h
              cases h
          | ok us =>
              rw [hr] at h
              obtain rfl := Except.ok.inj h
              exact Nat.succ_le_succ (ih hr)
        · exact Nat.le_succ_of_le (ih h)
        · cases h

/-- An added line adds at most one value. -/
theorem length_values_added_le {line : String} (hne : line.toList ≠ [])
    (hnot : ∀ c ∈ line.toList, Text.isLineEnd c = false) {log : String}
    {vs us : List (Json LooseText)}
    (hvs : values (lines log.toList) = .ok vs)
    (hus : values (lines (added log line).toList) = .ok us) : us.length ≤ vs.length + 1 := by
  obtain ⟨ls, hlog, hadded⟩ := exists_lines_added hne hnot log
  rw [hlog, values_append] at hvs
  rw [hadded, values_append] at hus
  cases hls : values ls with
  | error f =>
      rw [hls] at hvs
      cases hvs
  | ok ts =>
      rw [hls] at hvs hus
      simp only [Except.bind] at hvs hus
      cases hlast : values [fragment log.toList ++ line.toList] with
      | error f =>
          rw [hlast] at hus
          cases hus
      | ok ws =>
          have hle := length_values_le hlast
          rw [hlast] at hus
          obtain rfl := Except.ok.inj hus
          cases hfragment : values (if (fragment log.toList).isEmpty then []
            else [fragment log.toList]) with
          | error f =>
              rw [hfragment] at hvs
              cases hvs
          | ok ws' =>
              rw [hfragment] at hvs
              obtain rfl := Except.ok.inj hvs
              simp only [List.length_append, List.length_singleton] at hle ⊢
              omega

/-- What a read without filters gave under a limit that it did not reach are all values. -/
theorem values_of_read {limit : Option Int} {log : String} {vs : List (Json LooseText)}
    (h : read { limit } log = .ok vs) (hlimit : ∀ n, limit = some n → (vs.length : Int) < n) :
    values (lines log.toList) = .ok vs.reverse := by
  rw [read] at h
  cases hvalues : values (lines log.toList) with
  | error f =>
      rw [hvalues] at h
      cases h
  | ok us =>
      rw [hvalues] at h
      obtain rfl : limited limit us.reverse = vs := Except.ok.inj h
      cases limit with
      | none => rw [limited, List.reverse_reverse]
      | some n =>
          have hn := hlimit n rfl
          rw [limited, if_pos (by omega), List.length_take] at hn
          rw [limited, if_pos (by omega), List.take_of_length_le (by omega), List.reverse_reverse]

/-- With a limit that the values do not exceed, all of them are answered, the newest first. -/
theorem read_of_limit {limit : Option Int} {log : String} {us : List (Json LooseText)}
    (h : values (lines log.toList) = .ok us)
    (hlimit : ∀ n, limit = some n → (us.length : Int) ≤ n) :
    read { limit } log = .ok us.reverse := by
  have hlimited : limited limit us.reverse = us.reverse :=
    limited_eq_self (fun n hn => by rw [List.length_reverse]; exact hlimit n hn)
  rw [read, h]
  exact congrArg Except.ok hlimited

end Event.Log

namespace Workspace

/-- A new event is read first, before what was read already, when its line adds its value to
those of the log. -/
theorem LogsAt.events_emit_iff {w : Workspace} {directory : FileName} {p : Path}
    (hlogs : w.LogsAt directory p) {e : Event} (he : e.HasProperContext) {stamp line : String}
    (hline : e.line? stamp = some line) {limit : Option Int} {vs : List (Json LooseText)}
    (hvs : w.events directory { limit } = .ok vs)
    (hlimit : ∀ n, limit = some n → (vs.length : Int) < n) :
    Event.Log.values (Text.lines (w.textAt p).toList) = .ok vs.reverse ∧
      ((w.emit stamp e).events directory { limit } = .ok ((e.logged stamp).loose :: vs) ↔
        Event.Log.values (Text.lines (Event.Log.added (w.textAt p) line).toList) =
          .ok (vs.reverse ++ [(e.logged stamp).loose])) := by
  have hread : Event.Log.read { limit } (w.textAt p) = .ok vs := by
    rw [events, hlogs.logText_eq] at hvs
    dsimp only at hvs
    split at hvs
    · cases hvs
    · rename_i us hus
      obtain rfl : us = vs := Except.ok.inj hvs
      exact hus
  have hvalues := Event.Log.values_of_read hread hlimit
  have hafter := hlogs.put (Event.Log.added (w.textAt p) line)
  have htext := textAt_put w p (Event.Log.added (w.textAt p) line)
  refine ⟨hvalues, ?_⟩
  rw [hlogs.emit hline, events, hafter.logText_eq, htext]
  dsimp only
  constructor
  · intro h
    obtain ⟨hne, hnot⟩ := Event.Log.not_isLineEnd_of_line he hline
    cases hus : Event.Log.values (Text.lines (Event.Log.added (w.textAt p) line).toList) with
    | error f =>
        rw [Event.Log.read, hus] at h
        cases h
    | ok us =>
        have hle := Event.Log.length_values_added_le hne hnot hvalues hus
        rw [List.length_reverse] at hle
        have hbound : ∀ n, limit = some n → (us.length : Int) ≤ n := by
          intro n hn
          have hless := hlimit n hn
          omega
        rw [Event.Log.read_of_limit hus hbound] at h
        have hreverse : us.reverse = (e.logged stamp).loose :: vs := Except.ok.inj h
        rw [← List.reverse_reverse us, hreverse, List.reverse_cons]
  · intro h
    have hbound : ∀ n, limit = some n →
        ((vs.reverse ++ [(e.logged stamp).loose]).length : Int) ≤ n := by
      intro n hn
      have hless := hlimit n hn
      rw [List.length_append, List.length_reverse, List.length_singleton]
      omega
    rw [Event.Log.read_of_limit h hbound, List.reverse_append, List.reverse_reverse]
    rfl

/-- **A new event survives**, read first and before what was read already, exactly when only
blanks stand behind the last line end of the log. -/
theorem events_emit_survives_iff {w : Workspace} {directory : FileName} {p : Path}
    (hlogs : w.LogsAt directory p) {e : Event} (he : e.HasProperContext) (stamp : String)
    {limit : Option Int} {vs : List (Json LooseText)} (hvs : w.events directory { limit } = .ok vs)
    (hlimit : ∀ n, limit = some n → (vs.length : Int) < n) :
    (w.emit stamp e).events directory { limit } = .ok ((e.logged stamp).loose :: vs) ↔
      ∀ c ∈ Text.fragment (w.textAt p).toList, Text.isBlank c = true := by
  obtain ⟨line, hline, -⟩ := Event.exists_line? he stamp
  obtain ⟨hvalues, hread⟩ := hlogs.events_emit_iff he hline hvs hlimit
  rw [hread, Event.Log.values_added_iff he hline hvalues]

/-- The workspace with a text as its log, and an event without a context. -/
theorem logsAt_logs (text : String) :
    (⟨⟨[(["logs", "events.ndjson"], text)], [["logs"]], []⟩, some ["logs"]⟩ : Workspace).LogsAt
      ["logs"] ["logs", "events.ndjson"] where
  on := rfl
  located := by cbv
  free := rfl
  named := by cbv
  made := ⟨by decide, rfl, rfl, trivial⟩

/-- An event without a context has a proper one. -/
theorem hasProperContext_nil (level : Event.Level) (kind : Event.Kind) (message : String)
    (code : Option String) : (⟨level, kind, message, [], code⟩ : Event).HasProperContext :=
  .record List.nodup_nil (fun _ h => absurd h List.not_mem_nil)

/-- Behind a line without a value, an event survives. -/
theorem events_emit_survives_damaged :
    let w : Workspace :=
      ⟨⟨[(["logs", "events.ndjson"], "\x7b\n ")], [["logs"]], []⟩, some ["logs"]⟩
    let e : Event := ⟨.info, .parsed, "kept", [], none⟩
    (w.emit "TS" e).events ["logs"] {} = .ok [(e.logged "TS").loose] := by
  intro w e
  have hread : w.events ["logs"] {} = .ok [] := by cbv
  have hblank : ∀ c ∈ Text.fragment "\x7b\n ".toList, Text.isBlank c = true := by
    have hfragment : Text.fragment "\x7b\n ".toList = [' '] := by cbv
    rw [hfragment]
    simp [Text.isBlank]
  exact (events_emit_survives_iff (logsAt_logs "\x7b\n ") (hasProperContext_nil _ _ _ _) "TS"
    hread (fun _ h => by cases h)).mpr hblank

/-- Behind a line that was cut off, an event is lost. -/
theorem not_events_emit_cut :
    let w : Workspace :=
      ⟨⟨[(["logs", "events.ndjson"], "\x7b\"message\": \"cut")], [["logs"]], []⟩, some ["logs"]⟩
    let e : Event := ⟨.info, .parsed, "kept", [], none⟩
    w.events ["logs"] {} = .ok [] ∧
      (w.emit "TS" e).events ["logs"] {} ≠ .ok [(e.logged "TS").loose] := by
  intro w e
  have hread : w.events ["logs"] {} = .ok [] := by cbv
  refine ⟨hread, fun h => ?_⟩
  have hproper : e.HasProperContext := hasProperContext_nil _ _ _ _
  obtain ⟨line, hline, -⟩ := Event.exists_line? hproper "TS"
  obtain ⟨hvalues, hfirst⟩ := (logsAt_logs _).events_emit_iff hproper hline hread
    (fun _ h => by cases h)
  have hblank := (Event.Log.values_added_iff hproper hline hvalues).mp (hfirst.mp h) '\x7b'
  have hfragment : Text.fragment (w.textAt ["logs", "events.ndjson"]).toList =
      "\x7b\"message\": \"cut".toList := by cbv
  have hmem : '\x7b' ∈ "\x7b\"message\": \"cut".toList := by simp
  rw [← hfragment] at hmem
  exact absurd (hblank hmem) (by decide)

end Workspace

end SheetFormula
