import SheetFormula.Command.Run
import SheetFormula.Proofs.Lexing
import SheetFormula.Proofs.Failures
import SheetFormula.Proofs.Stages
import SheetFormula.Proofs.Trees

/-!
# Containment of Failures

A computation is meant to end with a value or with a fault in the formula, which is logged
and can be told to the user. This holds except on one way: the reading stops at a reference
that is `Unconvertible`, because a row number or an integer in the grid has more digits than
are converted between number and text. Then the failure is no fault, nothing is logged, and
a command that computes the formula crashes.

## Main results

* `Formula.isFault_of_evaluate`: an evaluation fails with faults only.
* `Computation.contained_iff`: **failures are contained** exactly when the reading stops at
  no unconvertible reference.
-/

namespace SheetFormula

/-- Every fault is of one of the kinds that are reported. -/
theorem Fault.isReported_kind (f : Fault) : f.kind.isReported = true := by
  rw [Kind.isReported_iff]
  cases f <;> simp [kind, report, Report.parse, Report.ofTokens, Report.ofSequence,
    Report.ofFunction, Report.ofArity, Report.ofReference, Report.division, Report.ofOperator,
    Report.plain]

/-! ### Evaluation -/

namespace Function

/-- A sine or cosine fails with a fault only. -/
theorem isFault_of_circular {g : Function} {value : Float → Float} {x : Float} {e : Failure}
    (h : circular g value x = .error e) : e.isFault = true := by
  rw [circular] at h
  split at h
  · cases h
    rfl
  · cases h

/-- A power fails with a fault only. -/
theorem isFault_of_power {x y : Float} {e : Failure} (h : power x y = .error e) :
    e.isFault = true := by
  rw [power] at h
  split at h
  · split at h
    · cases h
      rfl
    · cases h
      rfl
  · cases h

/-- The functions of doubles fail with faults only. -/
theorem isFault_of_applyWith {g : Function} {xs : List Float} {e : Failure}
    (h : applyWith (· < ·) pure id g xs = .error e) : e.isFault = true := by
  simp only [applyWith] at h
  split at h
  · obtain h | ⟨y, -, h⟩ := Failure.bind_eq_error_iff.mp h
    · cases h
    obtain h | ⟨z, -, h⟩ := Failure.bind_eq_error_iff.mp h
    · exact isFault_of_circular h
    · cases h
  · obtain h | ⟨y, -, h⟩ := Failure.bind_eq_error_iff.mp h
    · cases h
    obtain h | ⟨z, -, h⟩ := Failure.bind_eq_error_iff.mp h
    · exact isFault_of_circular h
    · cases h
  · obtain h | ⟨base, -, h⟩ := Failure.bind_eq_error_iff.mp h
    · cases h
    obtain h | ⟨exponent, -, h⟩ := Failure.bind_eq_error_iff.mp h
    · cases h
    obtain h | ⟨z, -, h⟩ := Failure.bind_eq_error_iff.mp h
    · exact isFault_of_power h
    · cases h
  · cases h
  · cases h
  · cases h
    rfl

end Function

/-- The arithmetic of doubles fails with faults only. -/
theorem Arithmetic.floats_failsWithin : Arithmetic.floats.FailsWithin (·.isFault = true) where
  add := by rintro x y e h; cases h
  sub := by rintro x y e h; cases h
  mul := by rintro x y e h; cases h
  div := by rintro x y e h; cases h
  apply := fun _ _ _ h => Function.isFault_of_applyWith h
  divisionByZero := rfl

/-- **An evaluation fails with faults only.** -/
theorem Formula.isFault_of_evaluate {f : Formula Float} {e : Failure}
    (h : f.evaluate = .error e) : e.isFault = true :=
  Formula.run_failure Arithmetic.floats_failsWithin (fun _ _ h => by cases h) (fun _ => rfl) h

/-! ### Reading -/

/-- A text **stops at an unconvertible reference** when the reading of its tokens stops at a
reference whose row number, or an integer in whose way, has too many digits. -/
def StopsUnconvertible (grid : Option Grid) (text : String) : Prop :=
  ∃ ts ref, tokenize text = .ok ts ∧ Reading.StopsAt (resolve grid) ts ref ∧
    Unconvertible grid ref

namespace Computation

/-- A failure of reading that is no fault is that of an unconvertible reference. -/
theorem stopsUnconvertible_of_read {grid : Option Grid} {text : String} {e : Failure}
    (he : e.isFault = false) (h : (read grid text).outcome = .error e) :
    StopsUnconvertible grid text := by
  rw [read] at h
  cases htokens : tokenize text with
  | error site =>
      rw [htokens] at h
      cases h
      cases he
  | ok ts =>
      rw [htokens] at h
      change (parse grid ts).outcome = .error e at h
      rw [outcome_parse] at h
      obtain ⟨f, rfl, -⟩ | ⟨t, -, -, hfail, hstop⟩ := Reading.failure_cases h
      · cases he
      · obtain ⟨_, _, _, _, -, -, -, -, hok⟩ | ⟨_, herr⟩ | hun := resolve_cases grid t.text
        · rw [hok] at hfail
          cases hfail
        · rw [herr] at hfail
          cases hfail
          cases he
        · exact ⟨ts, t.text, htokens, hstop, hun⟩

/-- Reading a text that stops at an unconvertible reference fails, and no fault is the
reason. -/
theorem read_of_stopsUnconvertible {grid : Option Grid} {text : String}
    (h : StopsUnconvertible grid text) :
    ∃ e, e.isFault = false ∧ (read grid text).outcome = .error e := by
  obtain ⟨ts, ref, htokens, hstop, hun⟩ := h
  obtain ⟨e, he, href⟩ := hun.resolve_eq
  refine ⟨e, he, ?_⟩
  rw [read, htokens]
  change (parse grid ts).outcome = .error e
  rw [outcome_parse]
  exact hstop.outcome_eq href

/-- A formula that is a reference with a row number of too many digits stops there, in every
grid. -/
theorem stopsUnconvertible_of_row (g : Grid) {letter : Char} {ds : List Char}
    (hletter : Lexeme.isCapital letter = true) (hds : Lexeme.AreDigits ds)
    (hlong : Decimal.digitLimit < ds.length) :
    StopsUnconvertible (some g) (String.ofList ('=' :: letter :: ds)) := by
  have hparts : Address.parts? (String.ofList (letter :: ds)) = some (letter, ds) :=
    Address.parts?_eq_some_iff.mpr
      ⟨String.toList_ofList, hletter, hds.ne_nil, List.all_eq_true.mpr hds.isDigit⟩
  refine ⟨_, _, Lexeme.tokenize_reference hletter hds, Reading.stopsAt_reference ?_,
    .row rfl hparts hlong⟩
  intro c hc
  rw [String.toList_ofList] at hc
  exact hds.ne_nil (List.cons.inj hc).2

/-! ### Containment -/

/-- A command that tells of an outcome **crashes** when it ends with neither an answer nor a
message. -/
def Crashes {α : Type} (r : Command.Run α) : Prop :=
  ∃ p c, (r p).1 = .error (.crashed c)

/-- The failures of a computation are **contained** when it answers, or fails with a fault of a
reported kind and logs it last, and the command that runs it does not crash. -/
structure Contained {α : Type} (text : String) (c : Computation α) : Prop where
  outcome : (∃ a, c.outcome = .ok a) ∨
    ∃ f stage, c.outcome = .error (.fault f) ∧ f.kind.isReported = true ∧
      (events c).getLast? = some (failedEvent text stage f)
  told : ∀ before, ¬ Crashes (Command.Run.orRefuse before c.outcome)

variable {α : Type} {text : String} {c : Computation α}

/-- A computation that answers is contained. -/
theorem contained_of_ok {a : α} (h : c.outcome = .ok a) : Contained text c := by
  refine ⟨Or.inl ⟨a, h⟩, ?_⟩
  rintro before ⟨p, crash, hcrash⟩
  rw [h] at hcrash
  cases hcrash

/-- A computation that ends with a fault is contained when its last event tells of it. -/
theorem contained_of_fault (stage : Stage) {f : Fault} (h : c.outcome = .error (.fault f))
    (hlast : (events c).getLast? = some (failedEvent text stage f)) : Contained text c := by
  refine ⟨Or.inr ⟨f, stage, h, f.isReported_kind, hlast⟩, ?_⟩
  rintro before ⟨p, crash, hcrash⟩
  rw [h] at hcrash
  cases hcrash

/-- A failure that is no fault is not contained. -/
theorem not_contained {e : Failure} (he : e.isFault = false) (h : c.outcome = .error e) :
    ¬ Contained text c := by
  intro hcontained
  obtain ⟨a, hok⟩ | ⟨f, -, hfault, -⟩ := hcontained.outcome
  · rw [hok] at h
    cases h
  · rw [hfault] at h
    cases h
    cases he

/-- Compiling is contained unless it stops at an unconvertible reference. -/
theorem contained_compile_iff (grid : Option Grid) (text : String) :
    Contained text (compile grid text) ↔ ¬ StopsUnconvertible grid text := by
  obtain ⟨f, hread, hok, -⟩ | ⟨f, hread, hfault, hevents⟩ | ⟨e, he, hread, hfail, -⟩ :=
    compile_cases grid text
  · refine iff_of_true (contained_of_ok hok) (fun hstop => ?_)
    obtain ⟨e, -, hfail⟩ := read_of_stopsUnconvertible hstop
    rw [hread] at hfail
    cases hfail
  · refine iff_of_true (contained_of_fault .parse hfault (by rw [hevents]; rfl))
      (fun hstop => ?_)
    obtain ⟨e, he, hfail⟩ := read_of_stopsUnconvertible hstop
    rw [hread] at hfail
    cases hfail
    cases he
  · exact iff_of_false (not_contained he hfail)
      (fun hstop => hstop (stopsUnconvertible_of_read he hread))

/-- A computation whose text was read answers or leaves the fault of its evaluation. -/
theorem contained_compute_of_ok {grid : Option Grid} {elapsed : Json} {f : Formula Float}
    (h : (compile grid text).outcome = .ok f) : Contained text (compute grid elapsed text) := by
  have houtcome : (compute grid elapsed text).outcome = (evaluation elapsed text f).outcome := by
    rw [compute_eq, Trace.outcome_bind, h]
    rfl
  have hevents : events (compute grid elapsed text) =
      events (compile grid text) ++ events (evaluation elapsed text f) := by
    rw [compute_eq, events_bind_of_ok h]
  obtain ⟨x, -, hok, -⟩ | ⟨g, -, hfault, hlast⟩ | ⟨e, he, hfail, -⟩ :=
    evaluation_cases elapsed text f
  · exact contained_of_ok (houtcome.trans hok)
  · refine contained_of_fault .evaluate (houtcome.trans hfault) ?_
    rw [hevents, hlast, List.getLast?_concat]
  · rw [Formula.isFault_of_evaluate hfail] at he
    cases he

/-- A computation whose text cannot be read fails as its reading does, with the same
events. -/
theorem contained_compute_of_error {grid : Option Grid} {elapsed : Json} {e : Failure}
    (h : (compile grid text).outcome = .error e) :
    Contained text (compute grid elapsed text) ↔ Contained text (compile grid text) := by
  have houtcome : (compute grid elapsed text).outcome = .error e := by
    rw [compute_eq, Trace.outcome_bind, h]
    rfl
  cases he : e.isFault with
  | false => exact iff_of_false (not_contained he houtcome) (not_contained he h)
  | true =>
      have hevents : events (compute grid elapsed text) = events (compile grid text) := by
        rw [compute_eq, events_bind_of_error h]
      obtain ⟨f, -, hok, -⟩ | ⟨f, -, hfault, hlast⟩ | ⟨e', he', -, hfail, -⟩ :=
        compile_cases grid text
      · rw [hok] at h
        cases h
      · obtain rfl := Except.error.inj (hfault.symm.trans h)
        refine iff_of_true ?_ ?_
        · exact contained_of_fault .parse houtcome (by rw [hevents, hlast]; rfl)
        · exact contained_of_fault .parse h (by rw [hlast]; rfl)
      · obtain rfl := Except.error.inj (hfail.symm.trans h)
        rw [he] at he'
        cases he'

/-- Computing is contained unless it stops at an unconvertible reference. -/
theorem contained_compute_iff (grid : Option Grid) (elapsed : Json) (text : String) :
    Contained text (compute grid elapsed text) ↔ ¬ StopsUnconvertible grid text := by
  rw [← contained_compile_iff]
  cases h : (compile grid text).outcome with
  | ok f => exact iff_of_true (contained_compute_of_ok h) (contained_of_ok h)
  | error e => exact contained_compute_of_error h

/-- **Failures are contained exactly when the reading stops at no unconvertible
reference**, both when a text is read and when it is computed. -/
theorem contained_iff (grid : Option Grid) (elapsed : Json) (text : String) :
    (Contained text (compile grid text) ↔ ¬ StopsUnconvertible grid text) ∧
    (Contained text (compute grid elapsed text) ↔ ¬ StopsUnconvertible grid text) :=
  ⟨contained_compile_iff grid text, contained_compute_iff grid elapsed text⟩

/-- A row number of one digit more than are read is too long: where a grid has only one row,
the reference to that row is a failure that is not contained. -/
theorem not_contained_row :
    ∃ (g : Grid) (text : String), g.rowCount = 1 ∧
      text = String.ofList ('=' :: 'A' :: '1' :: List.replicate 4300 '0') ∧
      ¬ Contained text (compile (some g) text) ∧
      ¬ Contained text (compute (some g) .null text) := by
  let g : Grid := ⟨.frame ⟨["label", "A"], [[some "r", some "1"]]⟩, none⟩
  have hdigits : Lexeme.AreDigits ('1' :: List.replicate 4300 '0') := by
    refine ⟨List.cons_ne_nil _ _, fun c hc => ?_⟩
    obtain rfl | hc := List.mem_cons.mp hc
    · decide
    · obtain rfl := List.eq_of_mem_replicate hc
      decide
  have hlong : Decimal.digitLimit < ('1' :: List.replicate 4300 '0').length := by
    rw [List.length_cons, List.length_replicate]
    decide
  have hcapital : Lexeme.isCapital 'A' = true := by decide
  have hstop := stopsUnconvertible_of_row g hcapital hdigits hlong
  refine ⟨g, _, rfl, rfl, ?_, ?_⟩
  · exact fun h => (contained_compile_iff _ _).mp h hstop
  · exact fun h => (contained_compute_iff _ _ _).mp h hstop

end Computation

end SheetFormula
