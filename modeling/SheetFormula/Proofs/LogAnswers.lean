import SheetFormula.Command.Run
import SheetFormula.Proofs.LogLines

/-!
# What a Log Answers

Whatever text a log is, reading it comes down to its values: what its lines hold, those aside that
are blank or hold nothing. A choice of level and kind takes those of the values that say so, and a
limit cuts them, the newest first.

A limit that is not negative bounds the answer from its recent end. A negative one leaves out that
many of the oldest instead, so that more events are shown than no events at all.

## Main results

* `Event.Log.values_eq_ok_iff`: a log has values where none of its lines blocks the reading.
* `Command.Choice.read_eq_ok_iff`: **what a log answers** to a choice, and when it does.
* `Command.Choice.read_bounded_iff`: **a limit bounds the answer** exactly when it is not negative,
  or leaves out all that is asked for.
* `Command.Choice.not_read_bounded`: a negative limit does not.
-/

namespace SheetFormula

/-! ### Records -/

namespace Json

/-- A value that is a **record**. -/
def IsRecord (v : Json LooseText) : Prop := ∃ fields, v = .record fields

/-- Whether a field of the value is the given text. -/
def hasText (name s : String) (v : Json LooseText) : Bool :=
  (v.field? (.whole name)).bind text? == some (.whole s)

/-- A value has fields exactly when it is a record. -/
theorem isSome_fields?_iff {v : Json LooseText} : v.fields?.isSome = true ↔ v.IsRecord := by
  cases v with
  | record fields => exact ⟨fun _ => ⟨fields, rfl⟩, fun _ => rfl⟩
  | null | bool b | whole i | real x | text s | list items =>
      constructor
      · intro h
        cases h
      · rintro ⟨fields, hfields⟩
        cases hfields

/-- Nothing but a text is the same as a text. -/
theorem same_text_eq (v : Json LooseText) (s : LooseText) :
    v.same (.text s) = (v.text? == some s) := by
  cases v <;> rfl

/-- Comparing a field with a text asks whether the record has that text there. -/
theorem same_field (v : Json LooseText) (name s : String) :
    ((v.field? (.whole name)).getD .null).same (.text (.whole s)) = v.hasText name s := by
  rw [same_text_eq, hasText]
  cases v.field? (.whole name) <;> rfl

end Json

/-! ### Values -/

namespace Event.Log

open Text (lines trimBlanks)

/-- The **value of a line**, none when the line is blank or holds no value. -/
def valueOf? (line : List Char) : Option (Json LooseText) :=
  (Json.parse (String.ofList (trimBlanks line))).toOption

/-- A line **blocks** the reading of a log when there is an integer beyond the digit limit in
it. -/
def Blocks (line : List Char) : Prop :=
  ∃ digits, Json.parse (String.ofList (trimBlanks line)) = .error (.tooLong digits)

/-- The values of a log, oldest first, apart from lines that block. -/
def valuesOf (log : String) : List (Json LooseText) := (lines log.toList).filterMap valueOf?

/-- A log **can be read** when none of its lines blocks. -/
def Readable (log : String) : Prop := ∀ line ∈ lines log.toList, ¬Blocks line

/-- A log **holds records** when all its values are records. -/
def HoldsRecords (log : String) : Prop := ∀ v ∈ valuesOf log, v.IsRecord

/-- A blank line is like any other that holds no value. -/
theorem values_cons (line : List Char) (rest : List (List Char)) :
    values (line :: rest) = match Json.parse (String.ofList (trimBlanks line)) with
      | .ok v => (values rest).map (v :: ·)
      | .error .malformed => values rest
      | .error (.tooLong digits) => .error (.tooLong digits) := by
  rw [values]
  cases htrim : trimBlanks line with
  | nil => rfl
  | cons c cs => rfl

/-- **The values of lines**: there are none when a line blocks. -/
theorem values_eq_ok_iff {ls : List (List Char)} {vs : List (Json LooseText)} :
    values ls = .ok vs ↔ (∀ line ∈ ls, ¬Blocks line) ∧ vs = ls.filterMap valueOf? := by
  induction ls generalizing vs with
  | nil =>
      rw [values, List.filterMap_nil, Except.ok.injEq]
      exact ⟨fun h => ⟨fun _ hmem => absurd hmem List.not_mem_nil, h.symm⟩, fun h => h.2.symm⟩
  | cons line rest ih =>
      rw [values_cons, List.forall_mem_cons, Blocks]
      cases hparse : Json.parse (String.ofList (trimBlanks line)) with
      | ok v =>
          have hvalue : valueOf? line = some v := by rw [valueOf?, hparse]; rfl
          rw [List.filterMap_cons_some hvalue]
          simp only [reduceCtorEq, exists_false, not_false_eq_true, true_and]
          cases hrest : values rest with
          | error f =>
              constructor
              · intro h
                cases h
              · intro h
                rw [ih.mpr ⟨h.1, rfl⟩] at hrest
                cases hrest
          | ok ws =>
              obtain ⟨hblocks, rfl⟩ := ih.mp hrest
              exact ⟨fun h => ⟨hblocks, (Except.ok.inj h).symm⟩, fun h => h.2 ▸ rfl⟩
      | error e =>
          have hvalue : valueOf? line = none := by rw [valueOf?, hparse]; rfl
          rw [List.filterMap_cons_none hvalue]
          cases e with
          | malformed =>
              simp only [Except.error.injEq, reduceCtorEq, exists_false, not_false_eq_true,
                true_and]
              exact ih
          | tooLong digits =>
              constructor
              · intro h
                cases h
              · exact fun h => absurd ⟨digits, rfl⟩ h.1.1

/-- A sequence of readings ends well when both of its parts do. -/
theorem bind_eq_ok_iff {α β : Type} {x : Except Fault α} {f : α → Except Fault β} {b : β} :
    x.bind f = .ok b ↔ ∃ a, x = .ok a ∧ f a = .ok b := by
  cases x with
  | error e =>
      constructor
      · intro h
        cases h
      · rintro ⟨a, ha, -⟩
        cases ha
  | ok a =>
      constructor
      · exact fun h => ⟨a, rfl, h⟩
      · rintro ⟨a', ha, h⟩
        rwa [Except.ok.inj ha]

/-- How many of so many values a limit keeps. -/
def kept (limit : Int) (length : Nat) : Nat :=
  if 0 ≤ limit then limit.toNat else length - limit.natAbs

/-- A limit, counted from the end when it is negative, takes the first values. -/
theorem limited_eq_take (limit : Int) (vs : List (Json LooseText)) :
    limited (some limit) vs = vs.take (kept limit vs.length) := by
  rw [limited, kept]
  split <;> rfl

end Event.Log

/-! ### Choices -/

namespace Command.Choice

open Event.Log (having limited valuesOf Readable HoldsRecords kept)

variable {c : Choice} {log : String} {es : List (Json LooseText)}

/-- Whether anything is asked for. An empty text asks for nothing. -/
def asksAnything (wanted : Option String) : Bool := wanted.any fun s => !s.isEmpty

/-- A choice **filters** when it asks for a level or a kind. -/
def Filters (c : Choice) : Prop := asksAnything c.level ∨ asksAnything c.kind

/-- Whether a value is what is asked for in a field. -/
def gives (name : String) (wanted : Option String) (v : Json LooseText) : Bool :=
  wanted.all fun s => s.isEmpty || v.hasText name s

/-- Whether a value has the level and the kind that are asked for. -/
def wants (c : Choice) (v : Json LooseText) : Bool :=
  gives "level" c.level v && gives "event_type" c.kind v

/-- The values of a log that are **asked for**, newest first. -/
def matching (c : Choice) (log : String) : List (Json LooseText) :=
  ((valuesOf log).filter c.wants).reverse

/-- Where nothing is asked for every value is let through. -/
theorem gives_of_not_asks {wanted : Option String} (h : asksAnything wanted = false)
    (name : String) (v : Json LooseText) : gives name wanted v = true := by
  cases wanted with
  | none => rfl
  | some s =>
      rw [asksAnything, Option.any_some, Bool.not_eq_false'] at h
      rw [gives, Option.all_some, h, Bool.true_or]

/-- A filter needs records, and keeps those that give what is asked for. -/
theorem having_eq_ok_iff {name : String} {wanted : Option String}
    {vs ws : List (Json LooseText)} :
    having name (wanted.elim .null .text) vs = .ok ws ↔
      (asksAnything wanted → ∀ v ∈ vs, v.IsRecord) ∧ ws = vs.filter (gives name wanted) := by
  have htruthy : (wanted.elim (Json.null : Json) .text).truthy = asksAnything wanted := by
    cases wanted <;> rfl
  have hrecords : (vs.all fun v => v.fields?.isSome) = true ↔ ∀ v ∈ vs, v.IsRecord := by
    rw [List.all_eq_true]
    exact forall₂_congr fun v _ => Json.isSome_fields?_iff
  rw [having, htruthy]
  cases hasks : asksAnything wanted with
  | false =>
      have hgives : vs.filter (gives name wanted) = vs :=
        List.filter_eq_self.mpr fun v _ => gives_of_not_asks hasks name v
      rw [if_neg Bool.false_ne_true, hgives, Except.ok.injEq, eq_comm]
      exact ⟨fun h => ⟨fun h => absurd h Bool.false_ne_true, h⟩, fun h => h.2⟩
  | true =>
      obtain ⟨s, rfl, hs⟩ := (Option.any_eq_true _ _).mp hasks
      have hgives : vs.filter (gives name (some s)) =
          vs.filter fun v => ((v.field? (.whole name)).getD .null).same (.text (.whole s)) := by
        refine List.filter_congr fun v _ => ?_
        rw [Bool.not_eq_true'] at hs
        rw [gives, Option.all_some, hs, Bool.false_or, Json.same_field]
      rw [if_pos rfl, hgives]
      split
      · rename_i hall
        rw [Except.ok.injEq, eq_comm]
        exact ⟨fun h => ⟨fun _ => hrecords.mp hall, h⟩, fun h => h.2⟩
      · rename_i hall
        constructor
        · intro h
          cases h
        · exact fun h => absurd (hrecords.mpr (h.1 rfl)) hall

/-- **What a log answers to a choice**: of its values those that are asked for, newest first and up
to the limit. There is an answer where no line blocks, and where all values are records if the
choice filters. -/
theorem read_eq_ok_iff : Event.Log.read (Run.filterOf c) log = .ok es ↔
    Readable log ∧ (c.Filters → HoldsRecords log) ∧
      es = limited (some c.limit) (c.matching log) := by
  have hfilter : ((valuesOf log).filter (gives "level" c.level)).filter
      (gives "event_type" c.kind) = (valuesOf log).filter c.wants := by
    rw [List.filter_filter]
    exact List.filter_congr fun v _ => Bool.and_comm _ _
  change (Event.Log.values _).bind (fun vs => (having _ _ vs).bind fun ws =>
    (having _ _ ws).bind fun xs => Except.ok (limited _ xs.reverse)) = Except.ok es ↔ _
  simp only [Event.Log.bind_eq_ok_iff, Event.Log.values_eq_ok_iff, Run.filterOf,
    having_eq_ok_iff, Except.ok.injEq]
  constructor
  · rintro ⟨vs, ⟨hreads, rfl⟩, ws, ⟨hlevel, rfl⟩, xs, ⟨hkind, rfl⟩, rfl⟩
    refine ⟨hreads, fun hfilters => ?_, ?_⟩
    · cases hasks : asksAnything c.level with
      | true => exact hlevel hasks
      | false =>
          rcases hfilters with h | h
          · rw [hasks] at h
            cases h
          · exact fun v hv =>
              hkind h v (List.mem_filter.mpr ⟨hv, gives_of_not_asks hasks "level" v⟩)
    · rw [matching, ← hfilter]
      rfl
  · rintro ⟨hreads, hrecords, rfl⟩
    refine ⟨_, ⟨hreads, rfl⟩, _, ⟨fun h => hrecords (.inl h), rfl⟩, _,
      ⟨fun h v hv => hrecords (.inr h) v (List.mem_filter.mp hv).1, rfl⟩, ?_⟩
    rw [matching, ← hfilter]
    rfl

/-- A log of records answers every choice, where it can be read. -/
theorem read_eq_ok_iff_of_holdsRecords (hlog : HoldsRecords log) :
    Event.Log.read (Run.filterOf c) log = .ok es ↔
      Readable log ∧ es = (c.matching log).take (kept c.limit (c.matching log).length) := by
  rw [read_eq_ok_iff, Event.Log.limited_eq_take]
  exact and_congr_right fun _ => and_iff_right fun _ => hlog

/-- **A limit bounds the answer** of a log of records, which answers where it can be read. The
answer is that many of the newest values that are asked for, and none if the limit is negative. This
is so exactly when the limit is not negative, or leaves out all of them; otherwise the answer is
also longer than the limit. The answer begins the one for a greater limit exactly when the smaller
limit is not negative, the greater one is, or the two are as far apart as there are values that are
asked for. -/
theorem read_bounded_iff (hlog : HoldsRecords log) (c : Choice) :
    ((∃ es, Event.Log.read (Run.filterOf c) log = .ok es) ↔ Readable log) ∧
    ∀ es, Event.Log.read (Run.filterOf c) log = .ok es →
      (es = (c.matching log).take c.limit.toNat ↔
        0 ≤ c.limit ∨ (c.matching log).length ≤ c.limit.natAbs) ∧
      (es.length ≤ c.limit.toNat ↔
        0 ≤ c.limit ∨ (c.matching log).length ≤ c.limit.natAbs) ∧
      ∀ limit, c.limit ≤ limit →
        ∃ fs, Event.Log.read (Run.filterOf { c with limit }) log = .ok fs ∧
          (es <+: fs ↔ 0 ≤ c.limit ∨ limit < 0 ∨
            ((c.matching log).length : Int) ≤ limit - c.limit) := by
  refine ⟨?_, fun es hread => ?_⟩
  · simp only [read_eq_ok_iff_of_holdsRecords hlog, exists_and_left, exists_eq, and_true]
  · obtain ⟨hreads, rfl⟩ := (read_eq_ok_iff_of_holdsRecords hlog).mp hread
    refine ⟨?_, ?_, fun limit hle =>
      ⟨_, (read_eq_ok_iff_of_holdsRecords hlog).mpr ⟨hreads, rfl⟩, ?_⟩⟩
    · rw [List.take_eq_take_iff, kept]
      split <;> omega
    · rw [List.length_take, kept]
      split <;> omega
    · change List.take _ _ <+: List.take (kept limit (c.matching log).length) (c.matching log) ↔ _
      rw [List.take_isPrefix_take, kept, kept]
      split <;> split <;> omega

/-- A log of two events, one of each of two levels. -/
def twoEvents : String := "\x7b\"level\": \"info\"\x7d\n\x7b\"level\": \"error\"\x7d\n"

/-- The values of the log with two events. -/
theorem values_twoEvents : Event.Log.values (Text.lines twoEvents.toList) =
    .ok [.record [(.whole "level", .text (.whole "info"))],
      .record [(.whole "level", .text (.whole "error"))]] := by
  cbv

/-- The log with two events holds records only. -/
theorem holdsRecords_twoEvents : HoldsRecords twoEvents := by
  obtain ⟨-, hvalues⟩ := Event.Log.values_eq_ok_iff.mp values_twoEvents
  rw [HoldsRecords, valuesOf, ← hvalues, List.forall_mem_cons, List.forall_mem_singleton]
  exact ⟨⟨_, rfl⟩, ⟨_, rfl⟩⟩

/-- Of two events one is read with a limit of one. -/
theorem read_bounded_iff_one : HoldsRecords twoEvents ∧
    ∃ es, Event.Log.read (Run.filterOf ⟨none, none, 1⟩) twoEvents = .ok es ∧ es.length ≤ 1 := by
  obtain ⟨hreadable, hbounded⟩ := read_bounded_iff holdsRecords_twoEvents ⟨none, none, 1⟩
  obtain ⟨hreads, -⟩ := Event.Log.values_eq_ok_iff.mp values_twoEvents
  obtain ⟨es, hread⟩ := hreadable.mpr hreads
  obtain ⟨-, hlength, -⟩ := hbounded es hread
  exact ⟨holdsRecords_twoEvents, es, hread, hlength.mpr (.inl (by decide))⟩

/-- **A negative limit does not bound the answer**: with a limit of `-1` one of two events is read,
which is no beginning of what is read with a limit of zero. -/
theorem not_read_bounded : HoldsRecords twoEvents ∧
    ∃ es, Event.Log.read (Run.filterOf ⟨none, none, -1⟩) twoEvents = .ok es ∧
      es ≠ (matching ⟨none, none, -1⟩ twoEvents).take (max 0 (-1 : Int)).toNat ∧
      ¬(es.length : Int) ≤ max 0 (-1) ∧
      Event.Log.read (Run.filterOf ⟨none, none, 0⟩) twoEvents = .ok [] ∧ ¬es <+: [] := by
  have hread (limit : Int) : Event.Log.read (Run.filterOf ⟨none, none, limit⟩) twoEvents =
      .ok (limited (some limit)
        [.record [(.whole "level", .text (.whole "error"))],
          .record [(.whole "level", .text (.whole "info"))]]) := by
    rw [Event.Log.read, values_twoEvents]
    rfl
  refine ⟨holdsRecords_twoEvents, _, hread (-1), ?_, ?_, hread 0, ?_⟩
  · exact List.cons_ne_nil _ _
  · decide
  · exact fun h => absurd (List.prefix_nil.mp h) (List.cons_ne_nil _ _)

end Command.Choice

end SheetFormula
