import SheetFormula.Proofs.CommandRuns

/-!
# What Command Lines Do to Files

A command line changes one file at most. A command that computes may add whole lines to the file of
its log, and `init` may make a settings file where there was none. All other command lines leave
the files as they are, and so do these when they stop before. Directories may be made on the way,
and none is removed.

So whatever command lines are run one after another, a file that is there keeps its text, with
lines added behind it only when it is the file of a log.

## Main results

* `Workspace.files_emitAll`: events change nothing or add lines to the file of the log.
* `Command.Line.effect`: **what one command line does** to the files.
* `Command.Line.files_runAll`: **what command lines do** one after another.
-/

namespace SheetFormula

/-! ### Lines behind a text -/

namespace Text

/-- A text that is one line: none of its characters ends a line. -/
def IsLine (s : String) : Prop := ∀ c ∈ s.toList, isLineEnd c = false

/-- Lines with a line feed behind each of them. -/
def ended (lines : List String) : String := String.join (lines.map (· ++ "\n"))

/-- The first of some lines comes before the others. -/
theorem ended_cons (line : String) (lines : List String) :
    ended (line :: lines) = line ++ "\n" ++ ended lines := by
  rw [ended, ended, List.map_cons, String.join_cons]

/-- Lines after other lines come after them. -/
theorem ended_append (lines more : List String) :
    ended (lines ++ more) = ended lines ++ ended more := by
  induction lines with
  | nil => simp [ended]
  | cons line r ih => rw [List.cons_append, ended_cons, ended_cons, ih, ← String.append_assoc]

end Text

/-! ### Files that are kept -/

namespace Files

open Text (ended)

variable {fs fs' fs'' : Files} {changed more : Set Path} {p : Path} {lines lines' : List String}

/-- Files that are **kept but** at some places: at the others there is what there was, and no
directory is removed. -/
structure KeptBut (changed : Set Path) (fs fs' : Files) : Prop where
  content : ∀ q ∉ changed, fs'.content? q = fs.content? q
  directories : ∀ q, fs.isDirectory q = true → fs'.isDirectory q = true
  here : fs'.here = fs.here

/-- Nothing changes when nothing is done. -/
theorem KeptBut.refl (changed : Set Path) (fs : Files) : KeptBut changed fs fs :=
  ⟨fun _ _ => rfl, fun _ hq => hq, rfl⟩

/-- What may change may be said to be more. -/
theorem KeptBut.mono (h : KeptBut changed fs fs') (hsub : changed ⊆ more) :
    KeptBut more fs fs' :=
  ⟨fun q hq => h.content q fun hmem => hq (hsub hmem), h.directories, h.here⟩

/-- What is kept by two steps is kept by both together. -/
theorem KeptBut.trans (h : KeptBut changed fs fs') (h' : KeptBut changed fs' fs'') :
    KeptBut changed fs fs'' :=
  ⟨fun q hq => (h'.content q hq).trans (h.content q hq),
    fun q hq => h'.directories q (h.directories q hq), h'.here.trans h.here⟩

/-- Writing a file changes no other. -/
theorem keptBut_put (fs : Files) (p : Path) (text : String) : KeptBut {p} fs (fs.put p text) :=
  ⟨fun _ hq => content?_put_of_ne fs hq text, fun _ hq => hq, rfl⟩

/-- Making directories keeps all files, whether it comes to its end or not. -/
theorem keptBut_afterMake (fs : Files) (name : FileName) : KeptBut ∅ fs (fs.afterMake name) := by
  have hmore := withMore_afterMake fs name
  refine ⟨fun q _ => ?_, hmore.directories, hmore.here⟩
  rw [content?, content?, hmore.texts]

/-- Making directories changes no file. -/
theorem keptBut_of_makeDirectories {name : FileName} (h : fs.makeDirectories name = .ok fs') :
    KeptBut ∅ fs fs' := by
  obtain ⟨-, rfl⟩ := makeDirectories_eq_ok_iff.mp h
  exact keptBut_afterMake fs name

/-- A name that leads to a place still does when no directory is removed. -/
theorem KeptBut.follow (h : KeptBut changed fs fs') {place q : Path} {name : FileName}
    (hq : fs.follow place name = .ok q) : fs'.follow place name = .ok q := by
  induction name generalizing place with
  | nil => exact hq
  | cons part rest ih =>
      rw [Files.follow] at hq ⊢
      split at hq
      · rename_i hplace
        rw [if_pos (hplace.imp_right (h.directories place))]
        split at hq
        · cases hq
        · rename_i hlong
          rw [if_neg hlong]
          exact ih hq
      · split at hq <;> cases hq

/-- A name that is located stays where it is. -/
theorem KeptBut.locate (h : KeptBut changed fs fs') {name : FileName} {q : Path}
    (hq : fs.locate name = .ok q) : fs'.locate name = .ok q := by
  rw [Files.locate] at hq ⊢
  split at hq
  · cases hq
  · rw [h.here]
    exact h.follow hq

/-- Files in which **lines were added** to the file at a place, which is made when there is
none. -/
structure Extended (p : Path) (lines : List String) (fs fs' : Files) : Prop
    extends KeptBut {p} fs fs' where
  text : fs'.content? p = some ((fs.content? p).getD "" ++ ended lines)

/-- A file that is extended twice is extended by both. -/
theorem Extended.trans (h : Extended p lines fs fs') (h' : Extended p lines' fs' fs'') :
    Extended p (lines ++ lines') fs fs'' where
  toKeptBut := h.toKeptBut.trans h'.toKeptBut
  text := by
    rw [h'.text, h.text, Option.getD_some, Text.ended_append, String.append_assoc]

/-- Directories may be made first. -/
theorem KeptBut.extended (h : KeptBut ∅ fs fs') (h' : Extended p lines fs' fs'') :
    Extended p lines fs fs'' where
  toKeptBut := (h.mono (Set.empty_subset _)).trans h'.toKeptBut
  text := by rw [h'.text, h.content p (Set.notMem_empty p)]

/-- Files in which a file **was made** with a text, where there was none. -/
structure Created (p : Path) (text : String) (fs fs' : Files) : Prop
    extends KeptBut {p} fs fs' where
  fresh : fs.content? p = none
  text : fs'.content? p = some text

/-- A file that is created after steps that change none is created by all of them. -/
theorem KeptBut.created {text : String} (h : KeptBut ∅ fs fs') (h' : Created p text fs' fs'') :
    Created p text fs fs'' where
  toKeptBut := (h.mono (Set.empty_subset _)).trans h'.toKeptBut
  fresh := by rw [← h.content p (Set.notMem_empty p), h'.fresh]
  text := h'.text

/-- A file that is written where there is nothing is made. -/
theorem created_of_write {name : FileName} {text : String} (hexists : fs.exists? name = .ok false)
    (hwrite : fs.write name text = .ok fs') :
    ∃ p, fs'.locate name = .ok p ∧ Created p text fs fs' := by
  rw [write] at hwrite
  cases htarget : fs.target name with
  | error f =>
      rw [htarget] at hwrite
      cases hwrite
  | ok p =>
      obtain ⟨hlocate, -⟩ := target_eq_ok_iff.mp htarget
      rw [htarget] at hwrite
      obtain rfl := Except.ok.inj hwrite
      rw [exists?, hlocate] at hexists
      have hfile := (Bool.or_eq_false_iff.mp (Except.ok.inj hexists)).1
      refine ⟨p, locate_put hlocate p text, keptBut_put fs p text, ?_, content?_put fs p text⟩
      exact Option.isNone_iff_eq_none.mp (by simpa [isFile] using hfile)

end Files

/-! ### Events in the log -/

namespace Workspace

open Text (IsLine)

variable {w w' : Workspace} {stamp : String} {es : List Event} {place : FileName} {p : Path}

/-- Setting up the log makes directories at most. -/
theorem configure_cases {settings : Settings} (h : w.configure settings place = .ok w') :
    (settings.logs = false ∧ w' = w.logOff) ∨
    ∃ directory, settings.logs = true ∧ settings.logDirectory? place = some directory ∧
      w.logTo directory = .ok w' := by
  rw [configure] at h
  split at h
  · rename_i hlogs
    split at h
    · cases h
    · rename_i directory hdirectory
      cases hlogTo : w.logTo directory with
      | error f =>
          rw [hlogTo] at h
          cases h
      | ok w'' =>
          rw [hlogTo] at h
          obtain rfl := Except.ok.inj h
          exact Or.inr ⟨directory, hlogs, hdirectory, hlogTo⟩
  · rename_i hlogs
    exact Or.inl ⟨Bool.eq_false_iff.mpr hlogs, (Except.ok.inj h).symm⟩

/-- The log is turned on when its directory can be made. -/
theorem logTo_eq_ok_iff : w.logTo place = .ok w' ↔
    ∃ files, w.files.makeDirectories place = .ok files ∧ w' = ⟨files, some place⟩ := by
  rw [logTo]
  constructor
  · intro h
    cases hmake : w.files.makeDirectories place with
    | error f =>
        rw [hmake] at h
        cases h
    | ok files =>
        rw [hmake] at h
        exact ⟨files, rfl, (Except.ok.inj h).symm⟩
  · rintro ⟨files, hmake, rfl⟩
    rw [hmake]
    rfl

/-- Where no event changes the workspace, none of them do. -/
theorem emitAll_eq_self (h : ∀ e, w.emit stamp e = w) (es : List Event) :
    w.emitAll stamp es = w := by
  induction es with
  | nil => rfl
  | cons e es ih =>
      rw [emitAll, List.foldl_cons, h e]
      exact ih

/-- **Events add lines** to a log that can be written, one for each event. -/
theorem WritesAt.extended_emitAll (h : w.WritesAt place p)
    (hes : ∀ e ∈ es, e.HasProperContext) (hne : es ≠ []) :
    ∃ lines : List String, lines.length = es.length ∧ (∀ line ∈ lines, IsLine line) ∧
      Files.Extended p lines w.files (w.emitAll stamp es).files := by
  induction es generalizing w with
  | nil => exact absurd rfl hne
  | cons e es ih =>
      have he := hes e List.mem_cons_self
      obtain ⟨line, hline, -⟩ := Event.exists_line? he stamp
      have hisLine : IsLine line := (Event.Log.not_isLineEnd_of_line he hline).2
      have hemit := h.emit hline
      have hnext := h.put (Event.Log.added (w.textAt p) line)
      have hfirst : Files.Extended p [line] w.files (w.emit stamp e).files := by
        rw [hemit]
        refine ⟨Files.keptBut_put _ _ _, ?_⟩
        rw [Files.content?_put, Event.Log.added, textAt, String.append_assoc]
        rfl
      rw [← hemit] at hnext
      cases es with
      | nil => exact ⟨[line], rfl, by simpa using hisLine, hfirst⟩
      | cons e' es =>
          obtain ⟨lines, hlength, hlines, hrest⟩ :=
            ih hnext (fun f hf => hes f (List.mem_cons_of_mem e hf)) (List.cons_ne_nil e' es)
          exact ⟨line :: lines, congrArg Nat.succ hlength,
            List.forall_mem_cons.mpr ⟨hisLine, hlines⟩, hfirst.trans hrest⟩

/-- **Events change nothing**, or they add lines to the file of the log. -/
theorem files_emitAll (w : Workspace) (stamp : String) (hes : ∀ e ∈ es, e.HasProperContext) :
    (w.emitAll stamp es).files = w.files ∨
    ∃ place p, w.WritesAt place p ∧ ∃ lines : List String, lines ≠ [] ∧
      (∀ line ∈ lines, IsLine line) ∧
      Files.Extended p lines w.files (w.emitAll stamp es).files := by
  cases hlog : w.log with
  | none =>
      have hkeep (e : Event) : w.emit stamp e = w := by rw [emit, hlog]
      rw [emitAll_eq_self hkeep]
      exact Or.inl rfl
  | some place =>
      cases htarget : w.files.target (logFile place) with
      | error f =>
          have hkeep (e : Event) : w.emit stamp e = w := by
            rw [emit, hlog]
            cases e.line? stamp with
            | none => rfl
            | some line => simp only [Files.append, htarget, bind, Except.bind]
          rw [emitAll_eq_self hkeep]
          exact Or.inl rfl
      | ok p =>
          obtain ⟨hlocate, hfree⟩ := Files.target_eq_ok_iff.mp htarget
          have hwrites : w.WritesAt place p := ⟨hlog, hlocate, hfree⟩
          cases es with
          | nil => exact Or.inl rfl
          | cons e es =>
              obtain ⟨lines, hlength, hlines, hextended⟩ :=
                hwrites.extended_emitAll hes (List.cons_ne_nil e es)
              refine Or.inr ⟨place, p, hwrites, lines, ?_, hlines, hextended⟩
              rintro rfl
              cases hlength

end Workspace

/-! ### Commands -/

namespace Command

open Files (KeptBut Extended Created)

namespace Run

/-- Reading the log makes directories at most. -/
theorem keptBut_of_logText {w w' : Workspace} {place : FileName} {text : String}
    (h : w.logText place = .ok (text, w')) : KeptBut ∅ w.files w'.files := by
  rw [Workspace.logText] at h
  cases hmake : w.files.makeDirectories place with
  | error f =>
      rw [hmake] at h
      cases h
  | ok files =>
      rw [hmake] at h
      simp only [bind, Except.bind] at h
      have hkept := Files.keptBut_of_makeDirectories hmake
      split at h
      · cases h
      · split at h
        · split at h
          · cases h
          · obtain rfl := congrArg Prod.snd (Except.ok.inj h)
            exact hkept
        · obtain rfl := congrArg Prod.snd (Except.ok.inj h)
          exact hkept

/-- To show tokens leaves the workspace as it is. -/
theorem keeps_tokens (formula : String) (asJson : Bool) :
    Keeps (·.space) (tokens formula asJson) := by
  rw [tokens]
  cases tokenize formula with
  | error site => exact keeps_throw _
  | ok ts =>
      cases asJson with
      | true => exact keeps_print _
      | false => exact keeps_forM (fun t => keeps_print (tokenLine t)) ts

/-- Showing the events of a log makes directories at most. -/
theorem keptBut_events (directory : FileName) (c : Choice) (p : Progress) :
    KeptBut ∅ p.space.files ((events directory c).runFrom p).2.space.files := by
  cases hload : Settings.load p.space.files directory with
  | error f =>
      obtain ⟨stop, hstop⟩ := settingsOf_of_error hload false
      rw [events, runFrom_bind_of_error hstop]
      exact .refl _ _
  | ok settings =>
      cases hplace : settings.logDirectory? directory with
      | none =>
          rw [events, runFrom_bind_of_ok (settingsOf_of_ok hload false), hplace]
          dsimp only
          cases settings.hasTornLog <;> exact .refl _ _
      | some place =>
          rw [runFrom_events hload hplace]
          split
          · exact .refl _ _
          · exact .refl _ _
          · exact .refl _ _
          · rename_i text space _ htext
            have hspace := keeps_showLog c text { p with space }
            dsimp only at hspace
            rw [hspace]
            exact keptBut_of_logText htext

/-- **Making a settings file** makes one where there was none, or makes directories at most. -/
theorem init_cases (directory : FileName) (p : Progress) :
    KeptBut ∅ p.space.files ((init directory).runFrom p).2.space.files ∨
    ∃ place, ((init directory).runFrom p).2.space.files.locate (Settings.fileIn directory) =
        .ok place ∧
      Created place Settings.defaultText p.space.files
        ((init directory).runFrom p).2.space.files := by
  have hmade := Files.keptBut_afterMake p.space.files directory
  rw [init]
  rcases makeDirectory_cases directory p with ⟨stop, hstop⟩ | hok
  · rw [runFrom_bind_of_error hstop]
    exact Or.inl hmade
  · rw [runFrom_bind_of_ok hok]
    cases hexists : (p.space.files.afterMake directory).exists? (Settings.fileIn directory) with
    | error f => exact Or.inl hmade
    | ok found =>
        rw [runFrom_orCrash_ok_bind]
        cases found with
        | true => exact Or.inl hmade
        | false =>
            rw [if_neg Bool.false_ne_true]
            cases hwrite : (p.space.files.afterMake directory).write (Settings.fileIn directory)
                Settings.defaultText with
            | error f => exact Or.inl hmade
            | ok fs' =>
                obtain ⟨place, hplace, hcreated⟩ := Files.created_of_write hexists hwrite
                exact Or.inr ⟨place, hplace, hmade.created hcreated⟩

end Run

/-! ### Command lines -/

namespace Line

open Text (IsLine ended)

variable {files : Files} {l : Line} {c : Command} {p : Path}

/-- A command line whose events **are logged at a place**: it computes, the settings of its
directory turn the log on, and the file of the log that they name is found there. -/
inductive LogsTo (files : Files) (l : Line) (p : Path) : Prop
  | intro {c : Command} {s : Scene} {settings : Settings} {place : FileName}
      (hread : Command.read files l.words = .ok c) (hscene : c.scene? = some s)
      (hload : Settings.load files (FileName.ofText s.directory) = .ok settings)
      (hlogs : settings.logs = true)
      (hplace : settings.logDirectory? (FileName.ofText s.directory) = some place)
      (hlocate : (l.run files).files.locate (Workspace.logFile place) = .ok p)

/-- What a command line **does to the files**. Only commands that compute add lines, and only `init`
makes a file, so `tokens` and `events` keep all files. -/
inductive Effect (files : Files) (l : Line) : Prop
  /-- No file is changed. -/
  | kept (h : KeptBut ∅ files (l.run files).files)
  /-- Lines are added to the file of the log. -/
  | logged {p : Path} {lines : List String} (hlog : l.LogsTo files p) (hne : lines ≠ [])
      (hlines : ∀ line ∈ lines, IsLine line) (h : Extended p lines files (l.run files).files)
  /-- A settings file is made. -/
  | created {directory : String} {p : Path}
      (hread : Command.read files l.words = .ok (.init directory))
      (hlocate : (l.run files).files.locate (Settings.fileIn (FileName.ofText directory)) = .ok p)
      (h : Created p Settings.defaultText files (l.run files).files)

/-- A command that computes adds lines to its log at most. -/
theorem effect_of_scene {s : Scene} (hread : Command.read files l.words = .ok c)
    (hscene : c.scene? = some s) : l.Effect files := by
  have hspace := space_run_of_scene hscene l.stamp (.real l.elapsed) files
  have hfiles := files_run_of_ok hread
  rw [hspace] at hfiles
  have hproper : ∀ e ∈ c.eventsOn files (.real l.elapsed), e.HasProperContext := fun e he =>
    hasProperContext_of_mem_eventsOn he
  have hadds {w : Workspace} (hmade : KeptBut ∅ files w.files)
      (hsetUp : ((Run.setUp (FileName.ofText s.directory)).runFrom ⟨"", ⟨files, none⟩⟩).2.space = w)
      (hlogsTo : ∀ place p, w.WritesAt place p →
        (l.run files).files.locate (Workspace.logFile place) = .ok p → l.LogsTo files p) :
      l.Effect files := by
    rw [hsetUp] at hfiles
    rcases w.files_emitAll l.stamp hproper with
      hsame | ⟨place, p, hwrites, lines, hne, hlines, hextended⟩
    · rw [hsame] at hfiles
      exact .kept (hfiles ▸ hmade)
    · rw [← hfiles] at hextended
      exact .logged (hlogsTo place p hwrites (hextended.locate hwrites.located)) hne hlines
        (hmade.extended hextended)
  rcases Run.setUp_cases (FileName.ofText s.directory) ⟨"", ⟨files, none⟩⟩ with
    ⟨stop, hstop⟩ | ⟨settings, place, stop, -, -, -, hstop⟩ | ⟨settings, w, hload, hconfigure, hok⟩
  · refine hadds (.refl _ _) (congrArg (·.2.space) hstop) fun place p hwrites => ?_
    cases hwrites.on
  · have hspace := congrArg (·.2.space) hstop
    refine hadds (Files.keptBut_afterMake _ _) hspace fun place p hwrites => ?_
    cases hwrites.on
  · rcases Workspace.configure_cases hconfigure with
      ⟨hlogs, rfl⟩ | ⟨directory, hlogs, hdirectory, hlogTo⟩
    · refine hadds (.refl _ _) (congrArg (·.2.space) hok) fun place p hwrites => ?_
      cases hwrites.on
    · obtain ⟨files', hmake, rfl⟩ := Workspace.logTo_eq_ok_iff.mp hlogTo
      refine hadds (Files.keptBut_of_makeDirectories hmake) (congrArg (·.2.space) hok)
        fun place p hwrites hlocate => ?_
      obtain rfl := Option.some.inj hwrites.on
      exact .intro hread hscene hload hlogs hdirectory hlocate

/-- **What one command line does** to the files. -/
theorem effect (files : Files) (l : Line) : l.Effect files := by
  cases hread : Command.read files l.words with
  | error e =>
      have hsame : KeptBut ∅ files (l.run files).files := by
        rw [files_run_of_error hread]
        exact .refl _ _
      exact .kept hsame
  | ok c =>
      have hfiles := files_run_of_ok hread
      have hkept (h : Run.Keeps (·.space) (c.run l.stamp (.real l.elapsed))) : l.Effect files := by
        have hspace := h ⟨"", ⟨files, none⟩⟩
        dsimp only at hspace
        rw [hspace] at hfiles
        have hsame : KeptBut ∅ files (l.run files).files := by
          rw [hfiles]
          exact .refl _ _
        exact .kept hsame
      cases c with
      | version => exact hkept (Run.keeps_print _)
      | help form => exact hkept fun _ => rfl
      | tokens formula asJson => exact hkept (Run.keeps_tokens formula asJson)
      | eval formula s => exact effect_of_scene hread rfl
      | tree formula s => exact effect_of_scene hread rfl
      | events directory choice =>
          have hevents := Run.keptBut_events (FileName.ofText directory) choice
            ⟨"", ⟨files, none⟩⟩
          exact .kept (hfiles ▸ hevents)
      | init directory =>
          rcases Run.init_cases (FileName.ofText directory) ⟨"", ⟨files, none⟩⟩ with
            hmade | ⟨place, hplace, hcreated⟩
          · exact .kept (hfiles ▸ hmade)
          · exact .created hread (hfiles ▸ hplace) (hfiles ▸ hcreated)

/-- A file that is there keeps its text, or lines are added behind it by a command line that logs
there. -/
theorem content?_run {text : String} (h : files.content? p = some text) :
    (l.run files).files.content? p = some text ∨
    ∃ lines, l.LogsTo files p ∧ (∀ line ∈ lines, IsLine line) ∧
      (l.run files).files.content? p = some (text ++ ended lines) := by
  cases l.effect files with
  | kept hkept => exact Or.inl ((hkept.content p (Set.notMem_empty p)).trans h)
  | @logged q lines hlog hne hlines hextended =>
      by_cases hp : p = q
      · obtain rfl := hp
        have htext := hextended.text
        rw [h] at htext
        exact Or.inr ⟨lines, hlog, hlines, htext⟩
      · exact Or.inl ((hextended.content p hp).trans h)
  | @created directory q hread hlocate hcreated =>
      by_cases hp : p = q
      · obtain rfl := hp
        rw [hcreated.fresh] at h
        cases h
      · exact Or.inl ((hcreated.content p hp).trans h)

/-- The first command line is run before the others. -/
theorem runAll_cons (files : Files) (l : Line) (lines : List Line) :
    runAll files (l :: lines) = runAll (l.run files).files lines := rfl

/-- **What command lines do** to the files one after another. Each of them has its effect on the
files that those before it left. A file that was there at first keeps its text at the beginning,
and what stands behind it are whole lines, which only command lines that log there have added. -/
theorem files_runAll (files : Files) (lines : List Line) :
    (∀ before l after, lines = before ++ l :: after → l.Effect (runAll files before)) ∧
    ∀ p text, files.content? p = some text → ∃ added : List String,
      (runAll files lines).content? p = some (text ++ ended added) ∧
      (∀ line ∈ added, IsLine line) ∧
      (added ≠ [] → ∃ before l after, lines = before ++ l :: after ∧
        l.LogsTo (runAll files before) p) := by
  refine ⟨fun before l after _ => l.effect _, fun p text htext => ?_⟩
  induction lines generalizing files text with
  | nil => exact ⟨[], by simpa [ended, runAll] using htext, by simp, by simp⟩
  | cons l r ih =>
      rw [runAll_cons]
      rcases content?_run htext with hsame | ⟨added, hlog, hadded, hmore⟩
      · obtain ⟨added, hend, hadded, hby⟩ := ih (l.run files).files text hsame
        refine ⟨added, hend, hadded, fun hne => ?_⟩
        obtain ⟨before, l', after, rfl, hlog⟩ := hby hne
        exact ⟨l :: before, l', after, rfl, hlog⟩
      · obtain ⟨added', hend, hadded', -⟩ := ih (l.run files).files _ hmore
        refine ⟨added ++ added', ?_, ?_, fun _ => ⟨[], l, r, rfl, hlog⟩⟩
        · rw [hend, Text.ended_append, String.append_assoc]
        · exact List.forall_mem_append.mpr ⟨hadded, hadded'⟩

end Line

end Command

end SheetFormula
