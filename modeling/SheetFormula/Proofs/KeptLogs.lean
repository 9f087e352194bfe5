import SheetFormula.Proofs.FileEffects

/-!
# Logs Kept over Command Lines

Every command line begins anew: it loads the settings, makes the directory of the log and finds
its file again. Nothing of this changes what the next one finds. Directories that were made stay,
and writing the file of the log is no change for the settings, whose file has another name. So the
log that is empty at first holds the events of all the command lines that computed, whether they
came to their end or not.

## Main results

* `Settings.load_emitEach`: events change nothing in the settings.
* `Workspace.Holds.emitEach`: events are added to those that a log holds.
* `Command.Line.logState_runAll`: **the log after any command lines** holds all their events.
-/

namespace SheetFormula

/-! ### Looking up names beside a file that is written -/

namespace Files

variable {fs fs' : Files} {place p q : Path} {name : FileName} {part text : String} {e : Fault}

/-- The place that a name leads to is called by its last part. -/
theorem getLast?_of_follow (h : fs.follow place (name ++ [part]) = .ok q) (hback : part ≠ "..")
    (hroot : part ≠ "/") : q.getLast? = some part := by
  induction name generalizing place with
  | nil =>
      rw [List.nil_append, follow] at h
      split at h
      · split at h
        · cases h
        · obtain rfl := Except.ok.inj h
          rw [step, if_neg hback, if_neg hroot, List.getLast?_concat]
      · split at h <;> cases h
  | cons first rest ih =>
      rw [List.cons_append, follow] at h
      split at h
      · split at h
        · cases h
        · exact ih h
      · split at h <;> cases h

/-- A place is named by the last part of the file name that leads to it, unless this goes back or to
the root. -/
theorem getLast?_of_locate (h : fs.locate (name ++ [part]) = .ok q) (hback : part ≠ "..")
    (hroot : part ≠ "/") : q.getLast? = some part := by
  rw [locate] at h
  split at h
  · cases h
  · exact getLast?_of_follow h hback hroot

/-- A name that leads to no place still does not when a file is written. -/
theorem follow_put_of_error (h : fs.follow place name = .error e) (he : e ≠ .tooLong) (p : Path)
    (text : String) : ∃ e', e' ≠ .tooLong ∧ (fs.put p text).follow place name = .error e' := by
  induction name generalizing place with
  | nil => cases h
  | cons part rest ih =>
      rw [follow] at h ⊢
      rw [isDirectory_put]
      split at h
      · rename_i hplace
        rw [if_pos hplace]
        split at h
        · exact absurd (Except.error.inj h).symm he
        · rename_i hlong
          rw [if_neg hlong]
          exact ih h
      · rename_i hplace
        rw [if_neg hplace]
        split
        · exact ⟨.notDirectory, by decide, rfl⟩
        · exact ⟨.missing, by decide, rfl⟩

/-- A file name that leads nowhere, its parts not being too long, leads nowhere when a file has been
written. -/
theorem locate_put_of_error (h : fs.locate name = .error e) (he : e ≠ .tooLong) (p : Path)
    (text : String) : ∃ e', e' ≠ .tooLong ∧ (fs.put p text).locate name = .error e' := by
  rw [locate] at h ⊢
  cases hname : name.fault? with
  | some f =>
      rw [hname] at h
      obtain rfl := Except.error.inj h
      exact ⟨f, he, rfl⟩
  | none =>
      rw [hname] at h
      exact follow_put_of_error h he p text

/-- What a file name that leads nowhere stands for does not exist. -/
theorem exists?_of_error (h : fs.locate name = .error e) (he : e ≠ .tooLong) :
    fs.exists? name = .ok false := by
  rw [exists?, h]
  cases e with
  | tooLong => exact absurd rfl he
  | missing | notDirectory | isDirectory | «exists» | nulCharacter => rfl

/-- A file name that can be read leads to a place that has the text. -/
theorem locate_of_read (h : fs.read name = .ok text) :
    ∃ q, fs.locate name = .ok q ∧ fs.content? q = some text := by
  rw [read] at h
  cases hlocate : fs.locate name with
  | error f =>
      rw [hlocate] at h
      cases h
  | ok q =>
      rw [hlocate] at h
      simp only [bind, Except.bind] at h
      cases hcontent : fs.content? q with
      | none =>
          rw [hcontent] at h
          cases h
      | some text' =>
          rw [hcontent] at h
          obtain rfl := Except.ok.inj h
          exact ⟨q, rfl, hcontent⟩

/-- A file name that leads to a place with a text can be read, and its file exists. -/
theorem read_of_locate (h : fs.locate name = .ok q) (hcontent : fs.content? q = some text) :
    fs.read name = .ok text ∧ fs.exists? name = .ok true := by
  constructor
  · rw [read, h]
    simp only [bind, Except.bind, hcontent]
  · rw [exists?, h]
    simp only [isFile, hcontent, Option.isSome_some, Bool.true_or]

/-- A file that is kept is read as before. -/
theorem KeptBut.read (h : KeptBut ∅ fs fs') (hread : fs.read name = .ok text) :
    fs'.read name = .ok text := by
  obtain ⟨q, hlocate, hcontent⟩ := locate_of_read hread
  exact (read_of_locate (h.locate hlocate)
    ((h.content q (Set.notMem_empty q)).trans hcontent)).1

end Files

/-! ### Settings that last -/

namespace Settings

variable {fs fs' : Files} {directory place : FileName} {settings : Settings} {text : String}

/-- The settings are those of the file, when there is one. -/
theorem load_of_read (h : fs.read (fileIn directory) = .ok text) :
    load fs directory = Settings.read text := by
  obtain ⟨q, hlocate, hcontent⟩ := Files.locate_of_read h
  rw [load, (Files.read_of_locate hlocate hcontent).2, h]

/-- The settings are the defaults, when there is no file. -/
theorem load_of_absent (h : fs.exists? (fileIn directory) = .ok false) :
    load fs directory = .ok defaults := by
  rw [load, h]

/-- The settings of a directory stay when a file with the name of a log is written. -/
theorem load_put {p : Path} (hp : p.getLast? = some "events.ndjson")
    (h : load fs directory = .ok settings) (text : String) :
    load (fs.put p text) directory = .ok settings := by
  cases hlocate : fs.locate (fileIn directory) with
  | ok q =>
      have hq := Files.getLast?_of_locate hlocate (by decide) (by decide)
      have hne : q ≠ p := by
        rintro rfl
        rw [hp] at hq
        exact absurd hq (by decide)
      have hcontent := Files.content?_put_of_ne fs hne text
      have hlocate' := Files.locate_put hlocate p text
      have hread : (fs.put p text).read (fileIn directory) = fs.read (fileIn directory) := by
        rw [Files.read, Files.read, hlocate, hlocate']
        simp only [bind, Except.bind, hcontent]
        rfl
      have hexists : (fs.put p text).exists? (fileIn directory) =
          fs.exists? (fileIn directory) := by
        rw [Files.exists?, Files.exists?, hlocate, hlocate']
        simp only [Files.isFile, hcontent, Files.isDirectory_put]
      rw [load] at h ⊢
      rw [hexists, hread]
      exact h
  | error e =>
      by_cases he : e = .tooLong
      · rw [load, Files.exists?, hlocate, he] at h
        cases h
      · obtain ⟨e', he', hlocate'⟩ := Files.locate_put_of_error hlocate he p text
        rw [load_of_absent (Files.exists?_of_error hlocate he)] at h
        rw [load_of_absent (Files.exists?_of_error hlocate' he'), h]

/-- **Events change nothing in the settings.** -/
theorem load_emitEach {w : Workspace} {p : Path} (hwrites : w.WritesAt place p)
    (h : load w.files directory = .ok settings) (es : List (String × Event)) :
    load (w.emitEach es).files directory = .ok settings := by
  induction es generalizing w with
  | nil => exact h
  | cons e es ih =>
      have hp := Files.getLast?_of_locate hwrites.located (by decide) (by decide)
      change load ((w.emit e.1 e.2).emitEach es).files directory = _
      cases hline : e.2.line? e.1 with
      | none =>
          have hsame : w.emit e.1 e.2 = w := by rw [Workspace.emit, hwrites.on, hline]
          rw [hsame]
          exact ih hwrites h
      | some line =>
          rw [hwrites.emit hline]
          exact ih (hwrites.put _) (load_put hp h _)

/-- Settings of a directory **that last** while the directory of the log is made as far as it can
be: those of its settings file, or the defaults when there is none and none comes about. -/
inductive Lasting (files : Files) (directory place : FileName) : Settings → Prop
  | ofFile {text : String} {settings : Settings} (hread : files.read (fileIn directory) = .ok text)
      (htext : Settings.read text = .ok settings) : Lasting files directory place settings
  | ofDefaults (habsent : files.exists? (fileIn directory) = .ok false)
      (hmade : (files.afterMake place).exists? (fileIn directory) = .ok false) :
      Lasting files directory place defaults

/-- Settings that last are the ones that are loaded. -/
theorem Lasting.load (h : Lasting fs directory place settings) :
    Settings.load fs directory = .ok settings := by
  cases h with
  | ofFile hread htext => rw [load_of_read hread, htext]
  | ofDefaults habsent _ => exact load_of_absent habsent

/-- Settings that last are loaded also when the directory of the log has been made. -/
theorem Lasting.load_afterMake (h : Lasting fs directory place settings) :
    Settings.load (fs.afterMake place) directory = .ok settings := by
  cases h with
  | ofFile hread htext => rw [load_of_read ((Files.keptBut_afterMake fs place).read hread), htext]
  | ofDefaults _ hmade => exact load_of_absent hmade

end Settings

/-! ### Logs that hold events -/

namespace Workspace

variable {w w₀ : Workspace} {place : FileName} {p : Path} {es : List (String × Event)}

/-- The log in a directory **holds events**: it can be written and read, its values are their
records, and it ends where a line ends. -/
structure Holds (w : Workspace) (place : FileName) (p : Path) (es : List (String × Event)) : Prop
    extends w.LogsAt place p where
  values : Event.Log.values (Text.lines (w.textAt p).toList) =
    .ok (es.map fun e => (e.2.logged e.1).loose)
  ends : Text.fragment (w.textAt p).toList = []

/-- A log that was turned on where there is no file of a log holds no events. -/
theorem holds_of_logTo (hlog : w₀.logTo place = .ok w)
    (hhere : w₀.files.isDirectory w₀.files.here = true)
    (hnew : w.files.exists? (logFile place) = .ok false) : ∃ p, w.Holds place p [] := by
  obtain ⟨p, hlogs, hnone⟩ := logsAt_of_logTo hlog hhere hnew
  have hempty : w.textAt p = "" := by rw [textAt, hnone, Option.getD_none]
  exact ⟨p, hlogs, by rw [hempty]; rfl, by rw [hempty]; rfl⟩

/-- **Events are added** to those that a log holds. -/
theorem Holds.emitEach (h : w.Holds place p es) {more : List (String × Event)}
    (hmore : ∀ e ∈ more, e.2.HasProperContext) : (w.emitEach more).Holds place p (es ++ more) := by
  obtain ⟨hlogs, hvalues⟩ := h.toLogsAt.emitEach hmore h.values h.ends
  refine ⟨hlogs, ?_, ?_⟩
  · rw [hvalues, List.map_append]
  · exact Event.Log.fragment_of_growsBy h.ends (h.toWritesAt.emitEach hmore).2

end Workspace

/-! ### Command lines on one directory -/

namespace Command

variable {files fs : Files} {directory place : FileName} {settings : Settings} {l : Line}
  {lines : List Line} {es : List (String × Event)}

/-- A command that **computes on the settings of a directory**, or says how that is done. -/
def ComputesOn (directory : FileName) : Command → Prop
  | .eval _ s | .tree _ s => FileName.ofText s.directory = directory
  | .help _ => True
  | _ => False

namespace Line

/-- A command line that computes on the settings of a directory if it is read as a command at
all. -/
def ComputesOn (directory : FileName) (l : Line) : Prop :=
  ∀ fs c, Command.read fs l.words = .ok c → c.ComputesOn directory

/-- The events of a command line, each with its time. -/
def stamped (files : Files) (l : Line) : List (String × Event) :=
  (l.eventsOn files).map (Prod.mk l.stamp)

/-- A directory whose settings turn the log on, where **the log has not begun**: nothing is found
at the name of its file, neither at first nor when its directory was made as far as it can be. -/
structure FreshLog (files : Files) (directory place : FileName) (settings : Settings) : Prop where
  here : files.isDirectory files.here = true
  lasting : settings.Lasting files directory place
  logs : settings.logs = true
  named : settings.logDirectory? directory = some place
  unused : files.exists? (Workspace.logFile place) = .ok false
  unusedMade : (files.afterMake place).exists? (Workspace.logFile place) = .ok false

/-- The files **while a log is kept**, with the events that were logged: the log has not been
turned on yet, its directory cannot be made, or it holds them. -/
inductive LogState (files : Files) (directory place : FileName) (settings : Settings) :
    Files → List (String × Event) → Prop
  | unopened : LogState files directory place settings files []
  | unmade (hstops : (files.make place).2.isSome = true) :
      LogState files directory place settings (files.afterMake place) []
  | opened {w : Workspace} {p : Path} {es : List (String × Event)} (hholds : w.Holds place p es)
      (hload : Settings.load w.files directory = .ok settings) :
      LogState files directory place settings w.files es

/-- The settings are loaded at every point of a run over a fresh log. -/
theorem LogState.load (h : LogState files directory place settings fs es)
    (hfresh : FreshLog files directory place settings) :
    Settings.load fs directory = .ok settings := by
  cases h with
  | unopened => exact hfresh.lasting.load
  | unmade _ => exact hfresh.lasting.load_afterMake
  | opened _ hload => exact hload

/-- Turning the log on keeps the events that it holds. -/
theorem LogState.logTo (h : LogState files directory place settings fs es)
    (hfresh : FreshLog files directory place settings) {w : Workspace}
    (hlog : (⟨fs, none⟩ : Workspace).logTo place = .ok w) :
    (∃ p, w.Holds place p es) ∧ Settings.load w.files directory = .ok settings := by
  obtain ⟨fs', hmake, rfl⟩ := Workspace.logTo_eq_ok_iff.mp hlog
  obtain ⟨hend, hafter⟩ := Files.makeDirectories_eq_ok_iff.mp hmake
  cases h with
  | unopened =>
      obtain rfl := hafter
      exact ⟨Workspace.holds_of_logTo hlog hfresh.here hfresh.unusedMade,
        hfresh.lasting.load_afterMake⟩
  | unmade hstops =>
      rw [← (Files.make_afterMake files place).2, hend] at hstops
      cases hstops
  | @opened w p es hholds hload =>
      obtain rfl : w.files = fs' :=
        Except.ok.inj (hholds.makeDirectories_eq.symm.trans hmake)
      have hw : (⟨w.files, some place⟩ : Workspace) = w := by rw [← hholds.on]
      rw [hw]
      exact ⟨⟨p, hholds⟩, hload⟩

/-- A command whose setting up fails writes no events. -/
theorem eventsOn_of_error {c : Command} {s : Scene} {stop : Stop} {p : Progress}
    (hscene : c.scene? = some s)
    (hstop : (Run.setUp (FileName.ofText s.directory)).runFrom ⟨"", ⟨files, none⟩⟩ =
      (.error stop, p)) (elapsed : Json) : c.eventsOn files elapsed = [] := by
  have hopened : (Run.opened s).runFrom ⟨"", ⟨files, none⟩⟩ = (.error stop, p) :=
    Run.runFrom_bind_of_error hstop _
  cases c with
  | eval formula s' | tree formula s' =>
      obtain rfl : s' = s := Option.some.inj hscene
      rw [Command.eventsOn, Run.performed, hopened]
  | version | help | init | tokens | events => cases hscene

/-- A command that cannot make the directory of the log keeps the log as it is. -/
theorem LogState.afterMake (h : LogState files directory place settings fs es)
    (hstops : (fs.make place).2.isSome = true) :
    LogState files directory place settings (fs.afterMake place) es := by
  cases h with
  | unopened => exact .unmade hstops
  | unmade hstops' =>
      rw [(Files.make_afterMake files place).1]
      exact .unmade hstops'
  | @opened w p es hholds hload =>
      rw [(Files.makeDirectories_eq_ok_iff.mp hholds.makeDirectories_eq).1] at hstops
      cases hstops

/-- **A command that computes** adds its events to those that the log holds. -/
theorem LogState.run_of_scene (h : LogState files directory place settings fs es)
    (hfresh : FreshLog files directory place settings) {c : Command} {s : Scene}
    (hread : Command.read fs l.words = .ok c) (hscene : c.scene? = some s)
    (hdirectory : FileName.ofText s.directory = directory) :
    LogState files directory place settings (l.run fs).files (es ++ l.stamped fs) := by
  have hevents : l.eventsOn fs = c.eventsOn fs (.real l.elapsed) := by rw [eventsOn, hread]
  have hfiles := files_run_of_ok hread
  rw [space_run_of_scene hscene, hdirectory] at hfiles
  rcases Run.setUp_cases directory ⟨"", ⟨fs, none⟩⟩ with
    ⟨stop, hstop⟩ | ⟨settings', place', stop, hload, hplace, hstops, hstop⟩ |
    ⟨settings', w, hload, hconfigure, hok⟩
  · have hnone : c.eventsOn fs (.real l.elapsed) = [] :=
      eventsOn_of_error hscene (hdirectory ▸ hstop) _
    rw [hstop, hnone] at hfiles
    rw [stamped, hevents, hnone, List.map_nil, List.append_nil, hfiles]
    exact h
  · obtain rfl : settings' = settings := Except.ok.inj (hload.symm.trans (h.load hfresh))
    obtain rfl : place' = place := Option.some.inj (hplace.symm.trans hfresh.named)
    have hnone : c.eventsOn fs (.real l.elapsed) = [] :=
      eventsOn_of_error hscene (hdirectory ▸ hstop) _
    rw [hstop, hnone] at hfiles
    rw [stamped, hevents, hnone, List.map_nil, List.append_nil, hfiles]
    exact h.afterMake hstops
  · obtain rfl : settings' = settings := Except.ok.inj (hload.symm.trans (h.load hfresh))
    rcases Workspace.configure_cases hconfigure with ⟨hoff, -⟩ | ⟨place', -, hplace, hlog⟩
    · rw [hfresh.logs] at hoff
      cases hoff
    · obtain rfl : place' = place := Option.some.inj (hplace.symm.trans hfresh.named)
      obtain ⟨⟨p, hholds⟩, hload'⟩ := h.logTo hfresh hlog
      have hproper : ∀ e ∈ l.stamped fs, e.2.HasProperContext := by
        intro e he
        obtain ⟨e, hmem, rfl⟩ := List.mem_map.mp he
        rw [hevents] at hmem
        exact hasProperContext_of_mem_eventsOn hmem
      rw [hok, Workspace.emitAll_eq_emitEach, ← hevents] at hfiles
      rw [hfiles]
      exact .opened (hholds.emitEach hproper) (Settings.load_emitEach hholds.toWritesAt hload' _)

/-- **Every command line** adds its events to those that the log holds. -/
theorem LogState.run (h : LogState files directory place settings fs es)
    (hfresh : FreshLog files directory place settings) (hl : l.ComputesOn directory) :
    LogState files directory place settings (l.run fs).files (es ++ l.stamped fs) := by
  cases hread : Command.read fs l.words with
  | error e =>
      rw [stamped, eventsOn, hread, files_run_of_error hread, List.map_nil, List.append_nil]
      exact h
  | ok c =>
      have hc := hl fs c hread
      cases c with
      | eval formula s | tree formula s => exact h.run_of_scene hfresh hread rfl hc
      | help form =>
          have hfiles : (l.run fs).files = fs := files_run_of_ok hread
          rw [stamped, eventsOn, hread, hfiles]
          exact (List.append_nil es).symm ▸ h
      | version | init | tokens | events => exact hc.elim

end Line

end Command

end SheetFormula
