import SheetFormula.Computation

/-!
# Stages of a Computation

The events that a computation leaves, stage after stage. Reading a text leaves none of its
own, and neither does evaluation; an event stands between the two when a formula was read,
and another one at the end, which tells of the value or of the fault.

## Main results

* `Computation.compile_cases`: the three ends of reading, with all events.
* `Computation.evaluation_cases`: the three ends of evaluating what was read.
-/

namespace SheetFormula

namespace Computation

variable {α β : Type}

/-! ### Events of sequences -/

/-- The events of a step that succeeds are followed by those of the next one. -/
theorem events_bind_of_ok {c : Computation α} {a : α} (h : c.outcome = .ok a)
    (k : α → Computation β) : events (c >>= k) = events c ++ events (k a) := by
  simp only [events, Trace.notes_bind_of_ok h, List.filterMap_append]

/-- The events of a step that fails are all there are. -/
theorem events_bind_of_error {c : Computation α} {e : Failure} (h : c.outcome = .error e)
    (k : α → Computation β) : events (c >>= k) = events c := by
  simp only [events, Trace.notes_bind_of_error h]

/-- References that are resolved leave no event. -/
theorem events_mapNotes_resolved (r : Reading α) : events (r.mapNotes Note.resolved) = [] := by
  simp only [events, Trace.mapNotes, List.filterMap_map]
  exact List.filterMap_eq_nil_iff.mpr (fun _ _ => rfl)

/-- Reading a text leaves no event. -/
theorem events_read (grid : Option Grid) (text : String) : events (read grid text) = [] := by
  rw [read]
  cases tokenize text with
  | error site => rfl
  | ok ts =>
      change events (parse grid ts) = []
      rw [parse]
      cases h : (Reading.expression (resolve grid) ts).outcome with
      | error e => rw [events_bind_of_error (by exact h), events_mapNotes_resolved]
      | ok f =>
          rw [events_bind_of_ok (by exact h), events_mapNotes_resolved, events_bind_of_ok rfl]
          rfl

/-! ### Reported computations -/

variable {text : String} {stage : Stage} {c : Computation α}

/-- A computation that answers has nothing to report. -/
theorem reporting_of_ok {a : α} (h : c.outcome = .ok a) : reporting text stage c = c := by
  simp only [reporting, tryCatch, tryCatchThe, MonadExceptOf.tryCatch, h]

/-- A failure is reported as an event when it is a fault in the formula, and passed on. -/
theorem reporting_of_error {e : Failure} (h : c.outcome = .error e) :
    (reporting text stage c).outcome = .error e ∧
    events (reporting text stage c) = events c ++ (match e with
      | .fault f => [failedEvent text stage f]
      | _ => []) := by
  cases e with
  | fault f =>
      simp only [reporting, tryCatch, tryCatchThe, MonadExceptOf.tryCatch, h]
      exact ⟨rfl, List.filterMap_append⟩
  | _ =>
      simp only [reporting, tryCatch, tryCatchThe, MonadExceptOf.tryCatch, h]
      exact ⟨rfl, List.filterMap_append⟩

/-! ### The two stages -/

/-- The **three ends of reading a text**: a formula, a fault in it, or another failure. -/
theorem compile_cases (grid : Option Grid) (text : String) :
    (∃ f, (read grid text).outcome = .ok f ∧ (compile grid text).outcome = .ok f ∧
      events (compile grid text) = [parsedEvent text f]) ∨
    (∃ f, (read grid text).outcome = .error (.fault f) ∧
      (compile grid text).outcome = .error (.fault f) ∧
      events (compile grid text) = [failedEvent text .parse f]) ∨
    (∃ e, e.isFault = false ∧ (read grid text).outcome = .error e ∧
      (compile grid text).outcome = .error e ∧ events (compile grid text) = []) := by
  rw [compile]
  have hread := events_read grid text
  cases h : (read grid text).outcome with
  | ok f =>
      refine Or.inl ⟨f, rfl, ?_, ?_⟩
      · rw [reporting_of_ok h, Trace.outcome_bind, h]
        rfl
      · rw [reporting_of_ok h, events_bind_of_ok h, hread]
        rfl
  | error e =>
      obtain ⟨houtcome, hevents⟩ := @reporting_of_error _ text .parse _ _ h
      rw [hread] at hevents
      rw [events_bind_of_error houtcome, hevents, Trace.outcome_bind, houtcome]
      cases e with
      | fault f => exact Or.inr (Or.inl ⟨f, rfl, rfl, rfl⟩)
      | _ => exact Or.inr (Or.inr ⟨_, rfl, rfl, rfl, rfl⟩)

/-- The evaluation of a formula that was read, with its events. -/
def evaluation (elapsed : Json) (text : String) (f : Formula Float) : Computation Float := do
  let value ← reporting text .evaluate (Trace.ofExcept f.evaluate)
  Trace.note (.event (evaluatedEvent text elapsed value))
  pure value

/-- The **three ends of evaluating** a formula: a value, a fault, or another failure. -/
theorem evaluation_cases (elapsed : Json) (text : String) (f : Formula Float) :
    (∃ x, f.evaluate = .ok x ∧ (evaluation elapsed text f).outcome = .ok x ∧
      events (evaluation elapsed text f) = [evaluatedEvent text elapsed x]) ∨
    (∃ g, f.evaluate = .error (.fault g) ∧
      (evaluation elapsed text f).outcome = .error (.fault g) ∧
      events (evaluation elapsed text f) = [failedEvent text .evaluate g]) ∨
    (∃ e, e.isFault = false ∧ f.evaluate = .error e ∧
      (evaluation elapsed text f).outcome = .error e ∧
      events (evaluation elapsed text f) = []) := by
  rw [evaluation]
  cases hv : f.evaluate with
  | ok x => exact Or.inl ⟨x, rfl, rfl, rfl⟩
  | error e =>
      have hfail : (Trace.ofExcept (.error e) : Computation Float).outcome = .error e := rfl
      obtain ⟨houtcome, hevents⟩ := @reporting_of_error _ text .evaluate _ _ hfail
      rw [events_bind_of_error houtcome, hevents, Trace.outcome_bind, houtcome]
      cases e with
      | fault g => exact Or.inr (Or.inl ⟨g, rfl, rfl, rfl⟩)
      | _ => exact Or.inr (Or.inr ⟨_, rfl, rfl, rfl, rfl⟩)

/-- Computing is reading a formula and then evaluating it. -/
theorem compute_eq (grid : Option Grid) (elapsed : Json) (text : String) :
    compute grid elapsed text = (compile grid text >>= evaluation elapsed text) := rfl

end Computation

end SheetFormula
