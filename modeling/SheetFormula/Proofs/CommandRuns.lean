import SheetFormula.Command.Run
import SheetFormula.Proofs.EventProtocol

/-!
# Runs of Command Lines

A command goes through the workspace step by step, and may stop at each of them. Most steps look
at the files and change nothing. What a command does to the files is therefore said by the few
steps that change them: setting up the log, and adding to it the events of a computation.

Commands that compute, `eval` and `tree`, differ only in what they compute and how they show it.
Each sets up the log, gets the grid, performs the computation, and shows what came of it. When one
of the first two steps stops, there are no events.

## Main results

* `Run.setUp_cases`: what setting up a run does, or with what it stops.
* `Command.space_run_of_scene`: **a command that computes** leaves the workspace that was set up,
  with its events added to the log.
-/

namespace SheetFormula.Command

variable {α β γ : Type}

namespace Run

/-- What comes of a run, and the progress that was made then. -/
def runFrom (m : Run α) (p : Progress) : Except Stop α × Progress := m.run.run p

/-- A sequence goes on where its first part came to its end. -/
theorem runFrom_bind_of_ok {m : Run α} {p q : Progress} {a : α} (h : m.runFrom p = (.ok a, q))
    (k : α → Run β) : (m >>= k).runFrom p = (k a).runFrom q := by
  change StateT.bind (m := Id) m (ExceptT.bindCont k) p = _
  rw [runFrom, ExceptT.run] at h
  change m p = _ at h
  simp only [StateT.bind, h]
  rfl

/-- A sequence stops where its first part does. -/
theorem runFrom_bind_of_error {m : Run α} {p q : Progress} {stop : Stop}
    (h : m.runFrom p = (.error stop, q)) (k : α → Run β) :
    (m >>= k).runFrom p = (.error stop, q) := by
  change StateT.bind (m := Id) m (ExceptT.bindCont k) p = _
  rw [runFrom, ExceptT.run] at h
  change m p = _ at h
  simp only [StateT.bind, h]
  rfl

variable {ε : Type} {why : ε → Crash} {p : Progress}

/-- What has been printed and the workspace are passed on. -/
@[simp] theorem runFrom_get_bind (k : Progress → Run β) :
    (get >>= k : Run β).runFrom p = (k p).runFrom p := rfl

/-- The files of the workspace are passed on. -/
@[simp] theorem runFrom_files_bind (k : Files → Run β) :
    (files >>= k).runFrom p = (k p.space.files).runFrom p := rfl

/-- Files that are put in place are those of the workspace from there on. -/
@[simp] theorem runFrom_setFiles_bind (fs : Files) (k : Unit → Run β) :
    (setFiles fs >>= k).runFrom p =
      (k ()).runFrom { p with space := { p.space with files := fs } } := rfl

/-- A result is passed on. -/
@[simp] theorem runFrom_orCrash_ok_bind (a : α) (k : α → Run β) :
    (orCrash why (.ok a) >>= k).runFrom p = (k a).runFrom p := rfl

/-- A fault that is not foreseen stops the run. -/
@[simp] theorem runFrom_orCrash_error_bind (e : ε) (k : α → Run β) :
    (orCrash why (.error e) >>= k).runFrom p = (.error (.crashed (why e)), p) := rfl

/-! ### What a run keeps -/

/-- A run **keeps** what is seen of its progress when it leaves that as it was, however it
ends. -/
def Keeps (view : Progress → γ) (m : Run α) : Prop := ∀ p, view (m.runFrom p).2 = view p

variable {view : Progress → γ}

/-- To give a value changes nothing. -/
theorem keeps_pure (a : α) : Keeps view (pure a : Run α) := fun _ => rfl

/-- To stop changes nothing. -/
theorem keeps_throw (stop : Stop) : Keeps view (throw stop : Run α) := fun _ => rfl

/-- To look changes nothing. -/
theorem keeps_get : Keeps view (get : Run Progress) := fun _ => rfl

/-- A sequence keeps what both of its parts keep. -/
theorem Keeps.bind {m : Run α} {k : α → Run β} (hm : Keeps view m) (hk : ∀ a, Keeps view (k a)) :
    Keeps view (m >>= k) := by
  intro p
  have hp := hm p
  cases hrun : m.runFrom p with
  | mk r q =>
      rw [hrun] at hp
      cases r with
      | ok a => rw [runFrom_bind_of_ok hrun, hk a q, hp]
      | error stop => rw [runFrom_bind_of_error hrun, hp]

/-- A result changes nothing, be it a fault or not. -/
theorem keeps_orCrash (why : ε → Crash) (x : Except ε α) :
    Keeps view (orCrash why x) := by
  cases x with
  | ok a => exact keeps_pure a
  | error e => exact keeps_throw _

/-- A result on a formula changes nothing. -/
theorem keeps_orRefuse (before : String) (x : Except Failure α) :
    Keeps view (orRefuse before x) := by
  cases x with
  | ok a => exact keeps_pure a
  | error e => cases e <;> exact keeps_throw _

/-- To look at the files changes nothing. -/
theorem keeps_files : Keeps view files := keeps_get.bind fun _ => keeps_pure _

/-- Printing changes nothing in the workspace. -/
theorem keeps_print (line : String) : Keeps (·.space) (print line) := fun _ => rfl

/-- Reading the selection changes nothing. -/
theorem keeps_selected (select : Option String) : Keeps view (selected select) := by
  cases select with
  | none => exact keeps_pure none
  | some text =>
      rw [selected]
      split
      · exact keeps_pure none
      · exact (keeps_orRefuse _ _).bind fun _ => keeps_pure _

/-- Reading a frame changes nothing. -/
theorem keeps_frameOf (file : String) : Keeps view (frameOf file) := by
  rw [frameOf]
  split
  · refine keeps_files.bind fun fs => ?_
    cases fs.textsMatching? (FileName.ofText file) with
    | some texts => exact keeps_orCrash _ _
    | none => exact keeps_throw _
  · exact keeps_files.bind fun fs => (keeps_orCrash _ _).bind fun _ => keeps_orCrash _ _

/-- Reading the grid of a scene changes nothing. -/
theorem keeps_gridOf (s : Scene) : Keeps view (gridOf s) := by
  rw [gridOf]
  cases s.grid with
  | none =>
      dsimp only
      split
      · exact keeps_throw _
      · exact keeps_pure none
  | some file =>
      exact (keeps_selected _).bind fun _ => (keeps_frameOf file).bind fun _ => keeps_pure _

/-! ### Setting up -/

/-- Settings that load are those of the directory. -/
theorem settingsOf_of_ok {directory : FileName} {settings : Settings}
    (h : Settings.load p.space.files directory = .ok settings) (tells : Bool) :
    (settingsOf tells directory).runFrom p = (.ok settings, p) := by
  rw [settingsOf, runFrom_files_bind, h]
  rfl

/-- Where no settings load the run stops. -/
theorem settingsOf_of_error {directory : FileName} {f : Settings.Fault}
    (h : Settings.load p.space.files directory = .error f) (tells : Bool) :
    ∃ stop, (settingsOf tells directory).runFrom p = (.error stop, p) := by
  rw [settingsOf, runFrom_files_bind, h]
  dsimp only
  cases f.message? (Settings.fileIn directory).text with
  | none => exact ⟨_, rfl⟩
  | some message => cases tells <;> exact ⟨_, rfl⟩

/-- A log that can be set up is set up. -/
theorem setUp_of_ok {directory : FileName} {settings : Settings} {space : Workspace}
    (hload : Settings.load p.space.files directory = .ok settings)
    (hspace : p.space.configure settings directory = .ok space) :
    (setUp directory).runFrom p = (.ok settings, { p with space }) := by
  rw [setUp, runFrom_bind_of_ok (settingsOf_of_ok hload true), runFrom_get_bind, hspace]
  rfl

/-- Why a log cannot be set up: no directory is named, or it cannot be made. -/
theorem configure_of_error {w : Workspace} {settings : Settings} {directory : FileName}
    {f : Workspace.ConfigureFault} (h : w.configure settings directory = .error f) :
    (f = .notText ∨ f = .torn) ∨
    ∃ place e, settings.logDirectory? directory = some place ∧
      (w.files.make place).2 = some e ∧ f = .files e (w.files.afterMake place) := by
  rw [Workspace.configure] at h
  split at h
  · split at h
    · obtain rfl := Except.error.inj h
      exact Or.inl (by split <;> simp)
    · rename_i place hplace
      rw [Workspace.logTo, Files.makeDirectories] at h
      cases hmake : (w.files.make place).2 with
      | none =>
          rw [hmake] at h
          cases h
      | some e =>
          rw [hmake] at h
          exact Or.inr ⟨place, e, hplace, hmake, (Except.error.inj h).symm⟩
  · cases h

/-- **Setting up** loads the settings and turns the log on or off as they say. It may stop before it
has done anything, or with the directory of the log made as far as it can be. -/
theorem setUp_cases (directory : FileName) (p : Progress) :
    (∃ stop, (setUp directory).runFrom p = (.error stop, p)) ∨
    (∃ settings place stop, Settings.load p.space.files directory = .ok settings ∧
      settings.logDirectory? directory = some place ∧
      (p.space.files.make place).2.isSome = true ∧
      (setUp directory).runFrom p =
        (.error stop, ⟨p.out, { p.space with files := p.space.files.afterMake place }⟩)) ∨
    ∃ settings space, Settings.load p.space.files directory = .ok settings ∧
      p.space.configure settings directory = .ok space ∧
      (setUp directory).runFrom p = (.ok settings, { p with space }) := by
  cases hload : Settings.load p.space.files directory with
  | error f =>
      obtain ⟨stop, hstop⟩ := settingsOf_of_error hload true
      rw [setUp]
      exact Or.inl ⟨stop, runFrom_bind_of_error hstop _⟩
  | ok settings =>
      cases hspace : p.space.configure settings directory with
      | error f =>
          rw [setUp, runFrom_bind_of_ok (settingsOf_of_ok hload true), runFrom_get_bind, hspace]
          rcases configure_of_error hspace with
            (rfl | rfl) | ⟨place, e, hplace, hmake, rfl⟩
          · exact Or.inl ⟨_, rfl⟩
          · exact Or.inl ⟨_, rfl⟩
          · exact Or.inr (Or.inl ⟨settings, place, _, rfl, hplace, by rw [hmake]; rfl, rfl⟩)
      | ok space =>
          exact Or.inr (Or.inr ⟨settings, space, rfl, hspace, setUp_of_ok hload hspace⟩)

/-- **Making a directory** leaves it made as far as it can be, whether that comes to its end or
not. -/
theorem makeDirectory_cases (directory : FileName) (p : Progress) :
    (∃ stop, (makeDirectory directory).runFrom p =
      (.error stop, ⟨p.out, { p.space with files := p.space.files.afterMake directory }⟩)) ∨
    (makeDirectory directory).runFrom p =
      (.ok (p.space.files.afterMake directory),
        ⟨p.out, { p.space with files := p.space.files.afterMake directory }⟩) := by
  rw [makeDirectory, runFrom_files_bind, Files.afterMake]
  rcases p.space.files.make directory with ⟨fs, _ | f⟩
  · exact Or.inr rfl
  · exact Or.inl ⟨_, rfl⟩

/-- The first steps of a command that computes: the log is set up, and the grid is there. -/
def opened (s : Scene) : Run (Option Grid) := do
  let _ ← setUp (FileName.ofText s.directory)
  gridOf s

/-! ### Computing -/

/-- A **run that computes** on the grid of a scene, and shows what came of it. -/
def computing (stamp : String) (s : Scene) (c : Option Grid → Computation α)
    (present : Settings → α → Run Unit) : Run Unit := do
  let settings ← setUp (FileName.ofText s.directory)
  let grid ← gridOf s
  let a ← perform stamp (c grid)
  present settings a

/-- The command `eval` computes the value of its formula and prints it. -/
theorem eval_eq (stamp : String) (elapsed : Json) (formula : String) (s : Scene) :
    eval stamp elapsed formula s = computing stamp s (Computation.compute · elapsed formula)
      (fun settings value => orCrash .template (settings.display (.real value)) >>= print) := rfl

/-- The command `tree` compiles its formula and prints its text. -/
theorem tree_eq (stamp formula : String) (s : Scene) :
    tree stamp formula s =
      computing stamp s (Computation.compile · formula) (fun _ f => print f.text) := rfl

/-- The events of the computation of a scene: none when the run does not come to it. -/
def performed (files : Files) (s : Scene) (c : Option Grid → Computation α) : List Event :=
  match (opened s).runFrom ⟨"", ⟨files, none⟩⟩ with
  | (.ok grid, _) => (c grid).events
  | (.error _, _) => []

/-- A computation that is performed adds its events to the log, whatever is done with its
outcome. -/
theorem space_perform_bind {stamp : String} {c : Computation α} {k : α → Run β}
    (hk : ∀ a, Keeps (·.space) (k a)) (p : Progress) :
    ((perform stamp c >>= k).runFrom p).2.space = p.space.emitAll stamp c.events := by
  have hkeeps : Keeps (·.space) (orRefuse "" c.outcome >>= k) := (keeps_orRefuse _ _).bind hk
  exact hkeeps { p with space := p.space.emitAll stamp c.events }

/-- **A run that computes** leaves the workspace that was set up, with its events in the log. -/
theorem space_computing {stamp : String} {s : Scene} {c : Option Grid → Computation α}
    {present : Settings → α → Run Unit} (hpresent : ∀ x a, Keeps (·.space) (present x a))
    (files : Files) :
    ((computing stamp s c present).runFrom ⟨"", ⟨files, none⟩⟩).2.space =
      ((setUp (FileName.ofText s.directory)).runFrom ⟨"", ⟨files, none⟩⟩).2.space.emitAll stamp
        (performed files s c) := by
  rw [computing, performed, opened]
  cases hsetUp : (setUp (FileName.ofText s.directory)).runFrom ⟨"", ⟨files, none⟩⟩ with
  | mk r q =>
      cases r with
      | error stop =>
          rw [runFrom_bind_of_error hsetUp, runFrom_bind_of_error hsetUp]
          rfl
      | ok settings =>
          rw [runFrom_bind_of_ok hsetUp, runFrom_bind_of_ok hsetUp]
          have hkeepsGrid : Keeps id (gridOf s) := keeps_gridOf s
          have hkeeps : ((gridOf s).runFrom q).2 = q := hkeepsGrid q
          cases hgrid : (gridOf s).runFrom q with
          | mk r q' =>
              rw [hgrid] at hkeeps
              obtain rfl : q' = q := hkeeps
              cases r with
              | error stop =>
                  rw [runFrom_bind_of_error hgrid]
                  rfl
              | ok grid =>
                  rw [runFrom_bind_of_ok hgrid]
                  exact space_perform_bind (hpresent settings) q'

/-! ### Showing the log -/

/-- Shows what is asked for of the text of a log. -/
def showLog (c : Choice) (text : String) : Run Unit := do
  let found ← orCrash .log (Event.Log.read (filterOf c) text)
  if found.isEmpty then print "No events found." else found.forM showEvent

/-- The events are shown of the log that the settings name, when there is one. -/
theorem runFrom_events {directory place : FileName} {settings : Settings}
    (hload : Settings.load p.space.files directory = .ok settings)
    (hplace : settings.logDirectory? directory = some place) (c : Choice) :
    (events directory c).runFrom p =
      match p.space.files.exists? (Workspace.logFile place), p.space.logText place with
      | .error f, _ | .ok true, .error f => (.error (.crashed (.files f)), p)
      | .ok false, _ => (print "No events found.").runFrom p
      | .ok true, .ok (text, space) => (showLog c text).runFrom { p with space } := by
  rw [events, runFrom_bind_of_ok (settingsOf_of_ok hload false), hplace]
  dsimp only
  rw [runFrom_files_bind]
  cases p.space.files.exists? (Workspace.logFile place) with
  | error f => rfl
  | ok found =>
      rw [runFrom_orCrash_ok_bind]
      cases found with
      | false => rfl
      | true =>
          rw [if_pos rfl, runFrom_get_bind]
          cases p.space.logText place <;> rfl

/-- Steps one after another keep what each of them keeps. -/
theorem keeps_forM {f : α → Run Unit} (hf : ∀ a, Keeps view (f a)) (as : List α) :
    Keeps view (as.forM f) := by
  induction as with
  | nil => exact keeps_pure ()
  | cons a r ih => exact (hf a).bind fun _ => ih

/-- To show an event leaves the workspace as it is. -/
theorem keeps_showEvent (event : Json LooseText) : Keeps (·.space) (showEvent event) := by
  rw [showEvent]
  cases event.fields? with
  | none => exact keeps_throw _
  | some fields =>
      dsimp only
      cases levelOf? fields with
      | none => exact keeps_throw _
      | some level =>
          dsimp only
          cases eventLine? fields level with
          | none => exact keeps_throw _
          | some line => exact keeps_print line

/-- To show the log leaves the workspace as it is. -/
theorem keeps_showLog (c : Choice) (text : String) : Keeps (·.space) (showLog c text) := by
  refine (keeps_orCrash _ _).bind fun found => ?_
  split
  · exact keeps_print _
  · exact keeps_forM keeps_showEvent found

end Run

/-- The scene of a command that computes. -/
def scene? : Command → Option Scene
  | .eval _ s | .tree _ s => some s
  | _ => none

/-- The **events of a command** on files: those of its computation, when it comes to it. -/
def eventsOn (files : Files) (elapsed : Json) : Command → List Event
  | .eval formula s => Run.performed files s (Computation.compute · elapsed formula)
  | .tree formula s => Run.performed files s (Computation.compile · formula)
  | _ => []

/-- **A command that computes** leaves the workspace that was set up, with its events added to the
log. -/
theorem space_run_of_scene {c : Command} {s : Scene} (h : c.scene? = some s) (stamp : String)
    (elapsed : Json) (files : Files) :
    (Run.runFrom (c.run stamp elapsed) ⟨"", ⟨files, none⟩⟩).2.space =
      ((Run.setUp (FileName.ofText s.directory)).runFrom ⟨"", ⟨files, none⟩⟩).2.space.emitAll
        stamp (c.eventsOn files elapsed) := by
  cases c with
  | eval formula s' =>
      obtain rfl : s' = s := Option.some.inj h
      have hkeeps (settings : Settings) (value : Float) : Run.Keeps (·.space)
          (Run.orCrash .template (settings.display (.real value)) >>= Run.print) :=
        (Run.keeps_orCrash _ _).bind fun line => Run.keeps_print line
      rw [run, Run.eval_eq]
      exact Run.space_computing hkeeps files
  | tree formula s' =>
      obtain rfl : s' = s := Option.some.inj h
      have hkeeps (_ : Settings) (f : Formula Float) :
          Run.Keeps (·.space) (Run.print f.text) := Run.keeps_print f.text
      rw [run, Run.tree_eq]
      exact Run.space_computing hkeeps files
  | version | help | init | tokens | events => cases h

/-- The events of a command can be written. -/
theorem hasProperContext_of_mem_eventsOn {files : Files} {elapsed : Float} {c : Command}
    {e : Event} (h : e ∈ c.eventsOn files (.real elapsed)) : e.HasProperContext := by
  have hperformed {α : Type} {s : Scene} {c : Option Grid → Computation α}
      (hc : ∀ grid, ∀ e ∈ (c grid).events, e.HasProperContext) :
      ∀ e ∈ Run.performed files s c, e.HasProperContext := by
    intro e he
    rw [Run.performed] at he
    split at he
    · exact hc _ e he
    · cases he
  have hstamp (es : List Event) : (es.map (Prod.mk "")).map Prod.snd = es := by
    rw [List.map_map]
    exact List.map_id es
  cases c with
  | eval formula s =>
      refine hperformed (fun grid e he => ?_) e h
      exact (Computation.computeProtocol grid elapsed formula (hstamp _)).1 ("", e)
        (List.mem_map_of_mem he)
  | tree formula s =>
      refine hperformed (fun grid e he => ?_) e h
      exact (Computation.compileProtocol grid formula (hstamp _)).1 ("", e)
        (List.mem_map_of_mem he)
  | version | help | init | tokens | events => cases h

/-! ### Command lines -/

/-- A **command line** as it is run: its words, the time at which its events are logged, and the
time that computing takes. -/
structure Line where
  words : List String
  stamp : String
  elapsed : Float

namespace Line

/-- What comes of a command line on files. -/
def run (files : Files) (l : Line) : Result := runLine l.stamp (.real l.elapsed) files l.words

/-- The files after **one command line after another**. -/
def runAll (files : Files) (lines : List Line) : Files :=
  lines.foldl (fun files l => (l.run files).files) files

/-- The events of a command line on files. -/
def eventsOn (files : Files) (l : Line) : List Event :=
  match Command.read files l.words with
  | .ok c => c.eventsOn files (.real l.elapsed)
  | .error _ => []

/-- A line that is not read as a command does nothing to the files. -/
theorem files_run_of_error {files : Files} {l : Line} {e : Misread}
    (h : Command.read files l.words = .error e) : (l.run files).files = files := by
  rw [run, runLine, h]
  cases e <;> rfl

/-- A line that is read as a command comes to what the command does. -/
theorem run_of_ok {files : Files} {l : Line} {c : Command}
    (h : Command.read files l.words = .ok c) :
    l.run files = match Run.runFrom (c.run l.stamp (.real l.elapsed)) ⟨"", ⟨files, none⟩⟩ with
      | (.ok _, p) => ⟨p.out, none, p.space.files⟩
      | (.error stop, p) => ⟨p.out, some stop, p.space.files⟩ := by
  rw [run, runLine, h]
  rfl

/-- The files after a line are those that its command leaves. -/
theorem files_run_of_ok {files : Files} {l : Line} {c : Command}
    (h : Command.read files l.words = .ok c) : (l.run files).files =
      (Run.runFrom (c.run l.stamp (.real l.elapsed)) ⟨"", ⟨files, none⟩⟩).2.space.files := by
  rw [run_of_ok h]
  split <;> rename_i hrun <;> rw [hrun]

end Line

end SheetFormula.Command
