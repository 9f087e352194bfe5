import SheetFormula.Proofs.Sinks

/-!
# Transparency of Logging

A session works on formulas, with a sink for the events, and things may be done to the sink on the
way. Whatever happens to it, formulas have the same outcome, and an event that is emitted is taken.

## Main results

* `Sink.outcome_compile`, `Sink.outcome_compute`: what compiling and computing end with, whatever
  the sink.
* `Session.runFrom_transparent`: **compiling and computing a text end the same** with any two sinks,
  and no event that is emitted in a run stops it.
-/

namespace SheetFormula

/-- A **session**: the grid, the formulas that were kept by name, and the state of the sink. -/
structure Session (σ : Type) where
  grid : Option Grid
  formulas : List (String × Formula Float)
  state : σ

namespace Session

/-- A **step** of a session. -/
inductive Step (σ ε : Type)
  | useGrid (grid : Option Grid)
  /-- Reads a text and keeps the formula under a name, without an event. -/
  | read (name text : String)
  /-- Compiles a text and keeps the formula under a name. -/
  | compile (name text : String)
  /-- Evaluates the formula that is kept under a name. -/
  | evaluate (name : String)
  | compute (elapsed : Json) (text : String)
  | emit (e : Event)
  /-- Does something to the sink: turns it on or off, or changes from outside what it writes to. -/
  | change (act : σ → Except ε Unit × σ)

/-- What a step is answered. -/
inductive Answer
  | done
  | formula (text : String)
  | value (x : Float)
  /-- There is no formula with the name. -/
  | unknown

variable {σ ε α : Type}

/-- The session after something that ended with a formula, which is kept then. -/
def keeping (s : Session σ) (name : String) :
    Except (Raised ε) (Formula Float) × σ → Except (Raised ε) Answer × Session σ
  | (.ok f, state) =>
      (.ok (.formula f.text), { s with formulas := (name, f) :: s.formulas, state })
  | (.error r, state) => (.error r, { s with state })

/-- The session after something that only its sink remembers. -/
def answering (s : Session σ) (answer : α → Answer) :
    Except (Raised ε) α × σ → Except (Raised ε) Answer × Session σ
  | (x, state) => (x.map answer, { s with state })

/-- The answer to a **step**, and the session after it. -/
def take (k : Sink σ ε) (s : Session σ) : Step σ ε → Except (Raised ε) Answer × Session σ
  | .useGrid grid => (.ok .done, { s with grid })
  | .read name text =>
      s.keeping name ((Computation.read s.grid text).outcome.mapError .failure, s.state)
  | .compile name text => s.keeping name ((k.compile s.grid text).runFrom s.state)
  | .evaluate name =>
      match s.formulas.lookup name with
      | some f => s.answering .value (f.evaluate.mapError .failure, s.state)
      | none => (.ok .unknown, s)
  | .compute elapsed text => s.answering .value ((k.compute s.grid elapsed text).runFrom s.state)
  | .emit e => s.answering (fun _ => .done) ((k.emit e).runFrom s.state)
  | .change act => s.answering (fun _ => .done) ((Logged.ofSink act).runFrom s.state)

/-- The answers to the steps of a **run**, and the session after them. A step that raises something
does not end the run. -/
def run (k : Sink σ ε) (s : Session σ) :
    List (Step σ ε) → List (Except (Raised ε) Answer) × Session σ
  | [] => ([], s)
  | step :: steps =>
      ((take k s step).1 :: (run k (take k s step).2 steps).1, (run k (take k s step).2 steps).2)

end Session

/-! ### Outcomes without a sink -/

namespace Computation

/-- Compiling a text has the outcome of reading it. -/
theorem outcome_compile (grid : Option Grid) (text : String) :
    (compile grid text).outcome = (read grid text).outcome := by
  rcases compile_cases grid text with
    ⟨f, hread, houtcome, -⟩ | ⟨f, hread, houtcome, -⟩ | ⟨e, -, hread, houtcome, -⟩
  · rw [hread, houtcome]
  · rw [hread, houtcome]
  · rw [hread, houtcome]

/-- The outcome of computing a text is that of evaluating what is read, without any events. -/
theorem outcome_compute (grid : Option Grid) (elapsed : Json) (text : String) :
    (compute grid elapsed text).outcome = (read grid text).outcome >>= Formula.evaluate := by
  have hevaluation (f : Formula Float) : (evaluation elapsed text f).outcome = f.evaluate := by
    rcases evaluation_cases elapsed text f with
      ⟨x, hvalue, houtcome, -⟩ | ⟨g, hvalue, houtcome, -⟩ | ⟨e, -, hvalue, houtcome, -⟩
    · rw [hvalue, houtcome]
    · rw [hvalue, houtcome]
    · rw [hvalue, houtcome]
  rw [compute_eq, Trace.outcome_bind, outcome_compile]
  congr 1
  funext f
  exact hevaluation f

end Computation

namespace Sink

variable {σ ε : Type}

/-- Compiling a text with any sink has the outcome of reading it. -/
theorem outcome_compile (k : Sink σ ε) (grid : Option Grid) (text : String) (s : σ) :
    ((k.compile grid text).runFrom s).1 =
      (Computation.read grid text).outcome.mapError .failure := by
  rw [k.follows_compile grid text s, Computation.outcome_compile]

/-- Computing a text with any sink has the outcome of reading it and then evaluating the formula. -/
theorem outcome_compute (k : Sink σ ε) (grid : Option Grid) (elapsed : Json) (text : String)
    (s : σ) : ((k.compute grid elapsed text).runFrom s).1 =
      ((Computation.read grid text).outcome >>= Formula.evaluate).mapError .failure := by
  rw [k.follows_compute grid elapsed text s, Computation.outcome_compute]

end Sink

namespace Session

variable {σ ε : Type}

/-! ### Events that are emitted -/

/-- Emitting an event is answered, whatever the sink does with it. -/
theorem take_emit (k : Sink σ ε) (s : Session σ) (e : Event) :
    (take k s (.emit e)).1 = .ok .done := by
  rw [take, k.runFrom_emit]
  rfl

/-- An event that is emitted in a run does not stop it. -/
theorem getElem?_run_emit (k : Sink σ ε) (s : Session σ) {steps : List (Step σ ε)} {i : Nat}
    {e : Event} (hi : steps[i]? = some (.emit e)) : (run k s steps).1[i]? = some (.ok .done) := by
  induction steps generalizing s i with
  | nil => cases hi
  | cons step steps ih =>
      rw [run]
      cases i with
      | zero =>
          obtain rfl := Option.some.inj hi
          exact congrArg some (take_emit k s e)
      | succ i => exact ih (take k s step).2 hi

/-- **Logging is transparent**: compiling and computing a text end the same with any two sinks in
any two states, and with no fault of a sink; and an event that is emitted in a run of a session is
always answered, whatever was done to the sink before. -/
theorem runFrom_transparent {σ' ε' : Type} (k : Sink σ ε) (k' : Sink σ' ε') (grid : Option Grid)
    (text : String) :
    (∀ s s', ∃ x : Except Failure (Formula Float),
      ((k.compile grid text).runFrom s).1 = x.mapError .failure ∧
        ((k'.compile grid text).runFrom s').1 = x.mapError .failure) ∧
    (∀ s s' elapsed elapsed', ∃ x : Except Failure Float,
      ((k.compute grid elapsed text).runFrom s).1 = x.mapError .failure ∧
        ((k'.compute grid elapsed' text).runFrom s').1 = x.mapError .failure) ∧
    (∀ (s : Session σ) (steps : List (Step σ ε)) (i : Nat) (e : Event),
      steps[i]? = some (.emit e) → (run k s steps).1[i]? = some (.ok .done)) := by
  refine ⟨fun s s' => ?_, fun s s' elapsed elapsed' => ?_, fun s steps i e hi => ?_⟩
  · exact ⟨_, k.outcome_compile grid text s, k'.outcome_compile grid text s'⟩
  · exact ⟨_, k.outcome_compute grid elapsed text s, k'.outcome_compute grid elapsed' text s'⟩
  · exact getElem?_run_emit k s hi

/-- An event is emitted while its log is there, and another one after its directory was removed. -/
theorem runFrom_transparent_removed :
    let logTo (w : Workspace) : Except Workspace.LogFault Unit × Workspace :=
      match w.logTo ["logs"] with
      | .ok w' => (.ok (), w')
      | .error f => (.error (.files f), w)
    let remove (w : Workspace) : Except Workspace.LogFault Unit × Workspace :=
      match w.files.removeDirectory ["logs"] with
      | .ok files => (.ok (), { w with files })
      | .error f => (.error (.files f), w)
    let e : Event := ⟨.info, .parsed, "=1", [], none⟩
    let answers := (run (Workspace.sink "TS") ⟨none, [], ⟨⟨[], [], []⟩, none⟩⟩
      [.change logTo, .emit e, .change remove, .emit e]).1
    answers[1]? = some (.ok .done) ∧ answers[3]? = some (.ok .done) := by
  intro logTo remove e answers
  have hemit := (runFrom_transparent (Workspace.sink "TS") (Workspace.sink "TS") none "").2.2
    ⟨none, [], ⟨⟨[], [], []⟩, none⟩⟩ [.change logTo, .emit e, .change remove, .emit e]
  exact ⟨hemit 1 e rfl, hemit 3 e rfl⟩

end Session

end SheetFormula
