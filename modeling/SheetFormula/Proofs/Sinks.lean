import SheetFormula.Proofs.Stages
import SheetFormula.Workspace

/-!
# Sinks

A computation that writes each event when it happens, to a sink that may fail at it. What is raised
on the way is either a failure of the computation or a fault of the sink. Emitting an event catches
all faults of the sink, so that a computation runs as if its events were only noted, and written
one after the other.

## Main results

* `Sink.runFrom_emit`: **emitting an event is never stopped**, whatever the sink does.
* `Sink.follows_compile`, `Sink.follows_compute`: computations that write their events follow those
  that note them.
* `Workspace.runFrom_compute_sink`: with the log of a workspace as its sink, computing a text is
  what the workspace performs.
-/

namespace SheetFormula

/-- A **sink** for events, with states in `σ` and faults in `ε`. It writes events, and warns of what
went wrong with that. Either may fail, and may leave the sink in any state. -/
structure Sink (σ ε : Type) where
  write : Event → σ → Except ε Unit × σ
  warn : ε → σ → Except ε Unit × σ

/-- What is **raised** while events are written. -/
inductive Raised (ε : Type)
  | failure (f : Failure)
  /-- A fault of the sink. -/
  | sink (f : ε)

/-- A **computation that writes events** to a sink as it goes. -/
abbrev Logged (σ ε α : Type) : Type := ExceptT (Raised ε) (StateM σ) α

variable {σ ε α β : Type}

namespace Logged

/-- The outcome of a computation from a state of the sink, and the state in which it leaves the
sink. -/
def runFrom (m : Logged σ ε α) (s : σ) : Except (Raised ε) α × σ := m.run s

/-- An outcome that came about without events. -/
def ofOutcome (x : Except Failure α) : Logged σ ε α :=
  ExceptT.mk fun s => (x.mapError .failure, s)

/-- Something that a sink does. -/
def ofSink (act : σ → Except ε Unit × σ) : Logged σ ε Unit :=
  ExceptT.mk fun s => ((act s).1.mapError .sink, (act s).2)

/-- A step that succeeds is followed by the next one. -/
theorem runFrom_bind_of_ok {m : Logged σ ε α} {s s' : σ} {a : α}
    (h : m.runFrom s = (.ok a, s')) (k : α → Logged σ ε β) :
    (m >>= k).runFrom s = (k a).runFrom s' := by
  change StateT.bind (m := Id) m (ExceptT.bindCont k) s = _
  rw [runFrom, ExceptT.run] at h
  simp only [StateT.bind, h]
  rfl

/-- A step that fails ends the run. -/
theorem runFrom_bind_of_error {m : Logged σ ε α} {s s' : σ} {r : Raised ε}
    (h : m.runFrom s = (.error r, s')) (k : α → Logged σ ε β) :
    (m >>= k).runFrom s = (.error r, s') := by
  change StateT.bind (m := Id) m (ExceptT.bindCont k) s = _
  rw [runFrom, ExceptT.run] at h
  simp only [StateT.bind, h]
  rfl

/-- An answer is not caught. -/
theorem runFrom_tryCatch_of_ok {m : Logged σ ε α} {s s' : σ} {a : α}
    (h : m.runFrom s = (.ok a, s')) (handle : Raised ε → Logged σ ε α) :
    (tryCatch m handle).runFrom s = (.ok a, s') := by
  rw [runFrom, ExceptT.run] at h
  simp only [runFrom, ExceptT.run, tryCatch, tryCatchThe, MonadExceptOf.tryCatch, ExceptT.tryCatch,
    ExceptT.mk, bind, StateT.bind, h]
  rfl

/-- What was raised is handled in the state that was reached then. -/
theorem runFrom_tryCatch_of_error {m : Logged σ ε α} {s s' : σ} {r : Raised ε}
    (h : m.runFrom s = (.error r, s')) (handle : Raised ε → Logged σ ε α) :
    (tryCatch m handle).runFrom s = (handle r).runFrom s' := by
  rw [runFrom, ExceptT.run] at h
  simp only [runFrom, ExceptT.run, tryCatch, tryCatchThe, MonadExceptOf.tryCatch, ExceptT.tryCatch,
    ExceptT.mk, bind, StateT.bind, h]

end Logged

namespace Sink

open SheetFormula.Computation (Stage failedEvent parsedEvent evaluatedEvent read)

/-- **Emits an event**: a fault of the sink is caught, and so is a fault in the warning of it. -/
def emit (k : Sink σ ε) (e : Event) : Logged σ ε Unit :=
  tryCatch (.ofSink (k.write e)) fun r =>
    match r with
    | .sink f => tryCatch (.ofSink (k.warn f)) fun _ => pure ()
    | .failure _ => pure ()

/-- A computation that emits an event when it ends with a fault in the formula. -/
def reporting (k : Sink σ ε) (text : String) (stage : Stage) (m : Logged σ ε α) :
    Logged σ ε α :=
  tryCatch m fun r => do
    match r with
    | .failure (.fault f) => k.emit (failedEvent text stage f)
    | _ => pure ()
    throw r

/-- The formula that a text writes. The event that tells of it, or of the fault in it, is written
before it is given. -/
def compile (k : Sink σ ε) (grid : Option Grid) (text : String) : Logged σ ε (Formula Float) := do
  let f ← k.reporting text .parse (.ofOutcome (read grid text).outcome)
  k.emit (parsedEvent text f)
  pure f

/-- The **value of a formula text**. The events that tell of each step are written on the way. -/
def compute (k : Sink σ ε) (grid : Option Grid) (elapsed : Json) (text : String) :
    Logged σ ε Float := do
  let f ← k.compile grid text
  let value ← k.reporting text .evaluate (.ofOutcome f.evaluate)
  k.emit (evaluatedEvent text elapsed value)
  pure value

/-- The state of a sink after an event was emitted. -/
def after (k : Sink σ ε) (s : σ) (e : Event) : σ :=
  match k.write e s with
  | (.ok _, s') => s'
  | (.error f, s') => (k.warn f s').2

/-- **Emitting an event is never stopped**. -/
theorem runFrom_emit (k : Sink σ ε) (e : Event) (s : σ) :
    (k.emit e).runFrom s = (.ok (), k.after s e) := by
  have hrun (act : σ → Except ε Unit × σ) (s : σ) :
      (Logged.ofSink act).runFrom s = ((act s).1.mapError .sink, (act s).2) := rfl
  have hwritten := hrun (k.write e) s
  rw [emit, after]
  cases hwrite : k.write e s with
  | mk x s' =>
      rw [hwrite] at hwritten
      cases x with
      | ok _ => exact Logged.runFrom_tryCatch_of_ok hwritten _
      | error f =>
          rw [Logged.runFrom_tryCatch_of_error hwritten]
          have hwarned := hrun (k.warn f) s'
          cases hwarn : (k.warn f s').1 with
          | ok _ =>
              rw [hwarn] at hwarned
              exact Logged.runFrom_tryCatch_of_ok hwarned _
          | error g =>
              rw [hwarn] at hwarned
              exact Logged.runFrom_tryCatch_of_error hwarned _

/-! ### Following a computation with notes -/

/-- A computation that writes its events **follows** one that notes them: from every state of the
sink it has the same outcome, and the events were emitted in their order. -/
def Follows (k : Sink σ ε) (m : Logged σ ε α) (c : Computation α) : Prop :=
  ∀ s, m.runFrom s = (c.outcome.mapError .failure, c.events.foldl k.after s)

variable {k : Sink σ ε}

/-- Emitting an event follows the noting of it. -/
theorem follows_emit (e : Event) : k.Follows (k.emit e) (Trace.note (.event e)) :=
  fun s => k.runFrom_emit e s

/-- Answering at once follows answering at once. -/
theorem follows_pure (a : α) : k.Follows (pure a) (pure a) := fun _ => rfl

/-- An outcome follows a computation that left no event. -/
theorem follows_ofOutcome {c : Computation α} (h : c.events = []) :
    k.Follows (.ofOutcome c.outcome) c := by
  intro s
  rw [h]
  rfl

/-- A sequence follows a sequence when its parts do. -/
theorem Follows.bind {m : Logged σ ε α} {c : Computation α} (hm : k.Follows m c)
    {n : α → Logged σ ε β} {d : α → Computation β} (hn : ∀ a, k.Follows (n a) (d a)) :
    k.Follows (m >>= n) (c >>= d) := by
  intro s
  have hs := hm s
  cases houtcome : c.outcome with
  | ok a =>
      rw [houtcome] at hs
      rw [Logged.runFrom_bind_of_ok hs, hn a, Computation.events_bind_of_ok houtcome,
        Trace.outcome_bind, houtcome, List.foldl_append]
      rfl
  | error e =>
      rw [houtcome] at hs
      rw [Logged.runFrom_bind_of_error hs, Computation.events_bind_of_error houtcome,
        Trace.outcome_bind, houtcome]
      rfl

/-- Reporting a fault passes it on, after its event was written. -/
theorem Follows.reporting {m : Logged σ ε α} {c : Computation α} (hm : k.Follows m c)
    (text : String) (stage : Stage) :
    k.Follows (k.reporting text stage m) (Computation.reporting text stage c) := by
  intro s
  have hs := hm s
  cases houtcome : c.outcome with
  | ok a =>
      rw [houtcome] at hs
      rw [Computation.reporting_of_ok houtcome, houtcome]
      exact Logged.runFrom_tryCatch_of_ok hs _
  | error e =>
      obtain ⟨hfail, hevents⟩ := @Computation.reporting_of_error _ text stage _ _ houtcome
      rw [houtcome] at hs
      rw [hfail, hevents, List.foldl_append, Sink.reporting, Logged.runFrom_tryCatch_of_error hs]
      cases e with
      | fault f => exact Logged.runFrom_bind_of_ok (k.runFrom_emit _ _) _
      | _ => rfl

/-- Compiling with a sink follows the computation. -/
theorem follows_compile (k : Sink σ ε) (grid : Option Grid) (text : String) :
    k.Follows (k.compile grid text) (Computation.compile grid text) := by
  have hread := follows_ofOutcome (k := k) (Computation.events_read grid text)
  exact (hread.reporting text .parse).bind fun f => (follows_emit _).bind fun _ => follows_pure f

/-- **Computing with events written on the way** follows computing with events noted. -/
theorem follows_compute (k : Sink σ ε) (grid : Option Grid) (elapsed : Json) (text : String) :
    k.Follows (k.compute grid elapsed text) (Computation.compute grid elapsed text) := by
  refine (k.follows_compile grid text).bind fun f => ?_
  have hvalue : k.Follows (.ofOutcome f.evaluate) (Trace.ofExcept f.evaluate) := fun _ => rfl
  exact (hvalue.reporting text .evaluate).bind fun x =>
    (follows_emit _).bind fun _ => follows_pure x

end Sink

/-! ### The log of a workspace as a sink -/

namespace Workspace

/-- Why something cannot be done with the log of a workspace. -/
inductive LogFault
  /-- The context of an event holds an integer beyond the digit limit. -/
  | unwritable
  | files (f : Files.Fault)

/-- The workspace after an event was written to its log, as long as events are logged. -/
def write (stamp : String) (w : Workspace) (e : Event) : Except LogFault Workspace :=
  match w.log, e.line? stamp with
  | none, _ => .ok w
  | some _, none => .error .unwritable
  | some directory, some line =>
      match w.files.append (logFile directory) (line ++ "\n") with
      | .ok files => .ok { w with files }
      | .error f => .error (.files f)

/-- The **log of a workspace** as a sink. A fault leaves the workspace as it was, and what is warned
of is not seen in it. -/
def sink (stamp : String) : Sink Workspace LogFault where
  write e w :=
    match w.write stamp e with
    | .ok w' => (.ok (), w')
    | .error f => (.error f, w)
  warn _ w := (.ok (), w)

/-- An event that is emitted to the log leaves the workspace that `emit` says. -/
theorem after_sink (stamp : String) (w : Workspace) (e : Event) :
    (sink stamp).after w e = w.emit stamp e := by
  have hwrite : w.emit stamp e = match w.write stamp e with
      | .ok w' => w'
      | .error _ => w := by
    rw [write, emit]
    cases w.log with
    | none => rfl
    | some directory =>
        cases e.line? stamp with
        | none => rfl
        | some line =>
            dsimp only
            cases w.files.append (logFile directory) (line ++ "\n") <;> rfl
  rw [hwrite]
  simp only [Sink.after, sink]
  cases w.write stamp e <;> rfl

/-- What follows a computation, with the log as its sink, does what the workspace performs. -/
theorem runFrom_of_follows {stamp : String} {m : Logged Workspace LogFault α} {c : Computation α}
    (h : (sink stamp).Follows m c) (w : Workspace) :
    m.runFrom w = ((w.perform stamp c).1.mapError .failure, (w.perform stamp c).2) := by
  have hafter : (sink stamp).after = emit stamp := by
    funext w e
    exact after_sink stamp w e
  rw [h w, hafter]
  rfl

/-- Compiling with the sink of a workspace is performing the computation in it. -/
theorem runFrom_compile_sink (stamp : String) (grid : Option Grid) (text : String)
    (w : Workspace) : ((sink stamp).compile grid text).runFrom w =
      ((w.perform stamp (Computation.compile grid text)).1.mapError .failure,
        (w.perform stamp (Computation.compile grid text)).2) :=
  runFrom_of_follows ((sink stamp).follows_compile grid text) w

/-- **With the log as its sink**, computing a text is what the workspace performs. -/
theorem runFrom_compute_sink (stamp : String) (grid : Option Grid) (elapsed : Json)
    (text : String) (w : Workspace) : ((sink stamp).compute grid elapsed text).runFrom w =
      ((w.perform stamp (Computation.compute grid elapsed text)).1.mapError .failure,
        (w.perform stamp (Computation.compute grid elapsed text)).2) :=
  runFrom_of_follows ((sink stamp).follows_compute grid elapsed text) w

end Workspace

end SheetFormula
