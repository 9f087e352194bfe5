import SheetFormula.Proofs.LogLines
import SheetFormula.Workspace

/-!
# Runs of the Log

Once the directory of the log is made and its file can be written, it stays so: writing the
file changes no directory and no other file. Every event that is emitted then adds its line to
the file, and reading the log gives the records of all events.

## Main results

* `Files.withMore_afterMake`, `Files.make_afterMake`: making a directory adds directories only, and
  once more it adds nothing.
* `Files.Made.put`: a directory stays made when a file is written.
* `Workspace.logsAt_of_logTo`: a log that was turned on can be written.
* `Workspace.WritesAt.emitEach`: **a log that can be written grows by the records** of events.
* `Workspace.events_emitEach`: **reading the log after any events** gives their records.
-/

namespace SheetFormula

/-! ### Directories that were made -/

namespace Files

variable {fs fs' : Files} {place : Path} {name : FileName}

/-- All places on the way of a name are directories and no files. -/
def Made (fs : Files) : Path → FileName → Prop
  | _, [] => True
  | place, part :: rest =>
      FileName.isLongPart part = false ∧ fs.isFile (step place part) = false ∧
        fs.isDirectory (step place part) = true ∧ fs.Made (step place part) rest

/-- Files **with more directories** than others, and with nothing else changed. -/
structure WithMore (fs fs' : Files) : Prop where
  texts : fs'.texts = fs.texts
  directories : ∀ q, fs.isDirectory q = true → fs'.isDirectory q = true
  here : fs'.here = fs.here

/-- Files are themselves with nothing more. -/
theorem WithMore.refl (fs : Files) : WithMore fs fs := ⟨rfl, fun _ hq => hq, rfl⟩

/-- More of more is more. -/
theorem WithMore.trans {fs'' : Files} (h : WithMore fs fs') (h' : WithMore fs' fs'') :
    WithMore fs fs'' :=
  ⟨h'.texts.trans h.texts, fun q hq => h'.directories q (h.directories q hq), h'.here.trans h.here⟩

/-- The same places are files with more directories. -/
theorem WithMore.isFile (h : WithMore fs fs') (p : Path) : fs'.isFile p = fs.isFile p := by
  rw [Files.isFile, Files.isFile, content?, content?, h.texts]

/-- A directory that was added is there. -/
theorem isDirectory_addDirectory (fs : Files) (p : Path) :
    (fs.addDirectory p).isDirectory p = true := by
  rw [addDirectory]
  split
  · rename_i h
    exact h
  · simp [isDirectory]

/-- Adding a directory changes nothing else. -/
theorem withMore_addDirectory (fs : Files) (p : Path) : WithMore fs (fs.addDirectory p) := by
  rw [addDirectory]
  split
  · exact .refl fs
  · refine ⟨rfl, fun q hq => ?_, rfl⟩
    rw [isDirectory, Bool.or_eq_true] at hq ⊢
    refine hq.imp_right (fun hmem => ?_)
    rw [List.contains_iff_mem] at hmem ⊢
    exact List.mem_append_left _ hmem

/-- A part of a name at which nothing stops the making of its directory. -/
theorem makeFrom_cons {part : String} {begun : Bool} (hlong : FileName.isLongPart part = false)
    (hfile : fs.isFile (step place part) = false) (rest : FileName) :
    fs.makeFrom begun place (part :: rest) =
      (fs.addDirectory (step place part)).makeFrom (begun || !fs.isDirectory (step place part))
        (step place part) rest := by
  rw [makeFrom, hlong, hfile]
  rfl

/-- **Making directories adds directories only**, also when it stops with a fault. -/
theorem withMore_makeFrom (fs : Files) (begun : Bool) (place : Path) (name : FileName) :
    WithMore fs (fs.makeFrom begun place name).1 := by
  induction name generalizing fs begun place with
  | nil => exact .refl fs
  | cons part rest ih =>
      rw [makeFrom]
      split
      · exact .refl fs
      · split
        · exact .refl fs
        · exact (withMore_addDirectory fs _).trans (ih _ _ _)

/-- All places on the way are directories when making them came to its end. -/
theorem made_of_makeFrom {begun : Bool} (h : (fs.makeFrom begun place name).2 = none) :
    (fs.makeFrom begun place name).1.Made place name := by
  induction name generalizing fs begun place with
  | nil => trivial
  | cons part rest ih =>
      rw [makeFrom] at h ⊢
      split at h
      · cases h
      · rename_i hlong
        split at h
        · cases h
        · rename_i hfile
          rw [if_neg hlong, if_neg hfile]
          have hmore := withMore_makeFrom (fs.addDirectory (step place part))
            (begun || !fs.isDirectory (step place part)) (step place part) rest
          refine ⟨Bool.eq_false_iff.mpr hlong, ?_, ?_, ih h⟩
          · rw [hmore.isFile, (withMore_addDirectory fs _).isFile]
            exact Bool.eq_false_iff.mpr hfile
          · exact hmore.directories _ (isDirectory_addDirectory fs _)

/-- Nothing is added for a name whose directories are made. -/
theorem Made.makeFrom_eq (h : fs.Made place name) (begun : Bool) :
    fs.makeFrom begun place name = (fs, none) := by
  induction name generalizing begun place with
  | nil => rfl
  | cons part rest ih =>
      obtain ⟨hlong, hfile, hdirectory, hrest⟩ := h
      have hadd : fs.addDirectory (step place part) = fs := if_pos hdirectory
      rw [makeFrom, hlong, hfile, hadd]
      exact ih hrest _

/-- **Making directories once more** adds nothing, and it stops again where it stopped before. -/
theorem makeFrom_makeFrom (fs : Files) (begun begun' : Bool) (place : Path) (name : FileName) :
    ((fs.makeFrom begun place name).1.makeFrom begun' place name).1 =
        (fs.makeFrom begun place name).1 ∧
      ((fs.makeFrom begun place name).1.makeFrom begun' place name).2.isSome =
        (fs.makeFrom begun place name).2.isSome := by
  induction name generalizing fs begun begun' place with
  | nil => exact ⟨rfl, rfl⟩
  | cons part rest ih =>
      cases hlong : FileName.isLongPart part with
      | true => simp [makeFrom, hlong]
      | false =>
          cases hfile : fs.isFile (step place part) with
          | true => simp [makeFrom, hlong, hfile]
          | false =>
              have hmore := withMore_makeFrom (fs.addDirectory (step place part))
                (begun || !fs.isDirectory (step place part)) (step place part) rest
              have hfile' := (hmore.isFile (step place part)).trans
                ((withMore_addDirectory fs (step place part)).isFile _)
              have hadd : Files.addDirectory _ (step place part) = _ :=
                if_pos (hmore.directories _ (isDirectory_addDirectory fs _))
              rw [makeFrom_cons hlong hfile, makeFrom_cons hlong (hfile'.trans hfile), hadd]
              exact ih _ _ _ _

/-- The directories that were made are added to those that are there. -/
theorem withMore_afterMake (fs : Files) (name : FileName) : WithMore fs (fs.afterMake name) := by
  rw [afterMake, make]
  cases name.fault? with
  | some f => exact .refl fs
  | none => exact withMore_makeFrom fs _ _ _

/-- Making a directory once more stops as it did before, and leaves what is there. -/
theorem make_afterMake (fs : Files) (name : FileName) :
    (fs.afterMake name).afterMake name = fs.afterMake name ∧
      ((fs.afterMake name).make name).2.isSome = (fs.make name).2.isSome := by
  have hhere := (withMore_afterMake fs name).here
  rw [afterMake, make, hhere, afterMake, make]
  cases name.fault? with
  | some f => exact ⟨rfl, rfl⟩
  | none => exact makeFrom_makeFrom fs false false fs.here name

/-- Directories are made when making them comes to its end. -/
theorem makeDirectories_eq_ok_iff :
    fs.makeDirectories name = .ok fs' ↔ (fs.make name).2 = none ∧ fs.afterMake name = fs' := by
  rw [makeDirectories]
  cases (fs.make name).2 with
  | some f => simp
  | none => simp

/-- The name of a directory that is made is one that files can have, and all places on the way of
it are directories. -/
theorem made_of_make (h : (fs.make name).2 = none) :
    name.fault? = none ∧ (fs.afterMake name).Made fs.here name := by
  rw [afterMake]
  rw [make] at h ⊢
  cases hname : name.fault? with
  | some f =>
      rw [hname] at h
      cases h
  | none =>
      rw [hname] at h
      exact ⟨rfl, made_of_makeFrom h⟩

/-- Writing a file makes no directory. -/
theorem isDirectory_put (fs : Files) (p q : Path) (text : String) :
    (fs.put p text).isDirectory q = fs.isDirectory q := rfl

/-- **A directory stays made** when a file is written that is no directory. -/
theorem Made.put (h : fs.Made place name) {p : Path} (hp : fs.isDirectory p = false)
    (text : String) : (fs.put p text).Made place name := by
  induction name generalizing place with
  | nil => trivial
  | cons part rest ih =>
      obtain ⟨hlong, hfile, hdirectory, hrest⟩ := h
      refine ⟨hlong, ?_, hdirectory, ih hrest⟩
      have hne : step place part ≠ p := by
        rintro rfl
        rw [hp] at hdirectory
        cases hdirectory
      rw [isFile, content?_put_of_ne fs hne]
      exact hfile

/-- A name whose directories are made can be followed to the last of them. -/
theorem Made.follow_append (h : fs.Made place name)
    (hplace : name.head? = some "/" ∨ fs.isDirectory place = true) {part : String}
    (hpart : FileName.isLongPart part = false) :
    ∃ q, fs.follow place (name ++ [part]) = .ok (step q part) := by
  induction name generalizing place with
  | nil =>
      have hdirectory : fs.isDirectory place = true := hplace.resolve_left (by simp)
      refine ⟨place, ?_⟩
      rw [List.nil_append, follow, if_pos (Or.inr hdirectory), if_neg (by rw [hpart]; decide)]
      rfl
  | cons first rest ih =>
      obtain ⟨hlong, -, hdirectory, hrest⟩ := h
      have hfirst : first = "/" ∨ fs.isDirectory place = true :=
        hplace.imp_left (fun hhead => Option.some.inj hhead)
      obtain ⟨q, hq⟩ := ih hrest (Or.inr hdirectory)
      refine ⟨q, ?_⟩
      rw [List.cons_append, follow, if_pos hfirst, if_neg (by rw [hlong]; decide)]
      exact hq

/-- A name that leads to a place still does when a file is written. -/
theorem follow_put {q : Path} (h : fs.follow place name = .ok q) (p : Path) (text : String) :
    (fs.put p text).follow place name = .ok q := by
  induction name generalizing place with
  | nil => exact h
  | cons part rest ih =>
      rw [follow] at h ⊢
      split at h
      · rename_i hplace
        rw [isDirectory_put, if_pos hplace]
        split at h
        · cases h
        · rename_i hlong
          rw [if_neg hlong]
          exact ih h
      · split at h <;> cases h

/-- A file name that leads to a place leads there when a file has been written. -/
theorem locate_put {q : Path} (h : fs.locate name = .ok q) (p : Path) (text : String) :
    (fs.put p text).locate name = .ok q := by
  rw [locate] at h ⊢
  split at h
  · cases h
  · rename_i hfault
    exact follow_put h p text

/-- A file can be written where its name leads to a place that is no directory. -/
theorem target_eq_ok_iff {p : Path} :
    fs.target name = .ok p ↔ fs.locate name = .ok p ∧ fs.isDirectory p = false := by
  rw [target]
  cases fs.locate name with
  | error f =>
      constructor
      · intro h
        cases h
      · rintro ⟨h, -⟩
        cases h
  | ok q =>
      rw [Except.ok.injEq]
      simp only [bind, Except.bind]
      constructor
      · intro h
        split at h
        · cases h
        · rename_i hfree
          obtain rfl := Except.ok.inj h
          exact ⟨rfl, Bool.eq_false_iff.mpr hfree⟩
      · rintro ⟨rfl, hfree⟩
        rw [hfree]
        rfl

end Files

/-! ### A log that can be written -/

namespace Workspace

open Event (Filter)

variable {w w₀ : Workspace} {directory : FileName} {p : Path}

/-- Events are logged in a directory, and the file of the log is found at a place where it can be
**written**. -/
structure WritesAt (w : Workspace) (directory : FileName) (p : Path) : Prop where
  on : w.log = some directory
  located : w.files.locate (logFile directory) = .ok p
  free : w.files.isDirectory p = false

/-- Events are logged in a directory that is made, so that the log can be **written and read**. -/
structure LogsAt (w : Workspace) (directory : FileName) (p : Path) : Prop
    extends w.WritesAt directory p where
  named : directory.fault? = none
  made : w.files.Made w.files.here directory

/-- The name of the file of a log is at most too long. -/
theorem fault?_logFile (h : directory.fault? = none) :
    (logFile directory).fault? = none ∨ (logFile directory).fault? = some .tooLong := by
  have hnul : directory.any (·.contains '\x00') = false := by
    rw [FileName.fault?] at h
    split at h
    · cases h
    · rename_i hnot
      exact Bool.eq_false_iff.mpr hnot
  have hfile : (logFile directory).any (·.contains '\x00') = false := by
    have hlast : "events.ndjson".contains '\x00' = false := by simp
    rw [logFile, List.any_append, hnul, Bool.false_or, List.any_cons, hlast]
    rfl
  rw [FileName.fault?, hfile]
  by_cases hlong : 4096 ≤ (logFile directory).text.utf8ByteSize
  · exact Or.inr (if_pos hlong)
  · exact Or.inl (if_neg hlong)

/-- **A log that was turned on** where there is no file of a log can be written. -/
theorem logsAt_of_logTo (hlog : w₀.logTo directory = .ok w)
    (hhere : w₀.files.isDirectory w₀.files.here = true)
    (hnew : w.files.exists? (logFile directory) = .ok false) :
    ∃ p, w.LogsAt directory p ∧ w.files.content? p = none := by
  rw [logTo] at hlog
  cases hmake : w₀.files.makeDirectories directory with
  | error f =>
      rw [hmake] at hlog
      cases hlog
  | ok files =>
      rw [hmake] at hlog
      obtain rfl := Except.ok.inj hlog
      obtain ⟨hend, rfl⟩ := Files.makeDirectories_eq_ok_iff.mp hmake
      obtain ⟨hnamed, hmade⟩ := Files.made_of_make hend
      have hmore := Files.withMore_afterMake w₀.files directory
      have hplace := hmore.directories _ hhere
      rw [← hmore.here] at hmade hplace
      have hpart : FileName.isLongPart "events.ndjson" = false := by decide
      obtain ⟨q, hq⟩ := hmade.follow_append (Or.inr hplace) hpart
      have hlocate : (w₀.files.afterMake directory).locate (logFile directory) =
          .ok (Files.step q "events.ndjson") := by
        rcases fault?_logFile hnamed with hfault | hfault
        · rw [Files.locate, hfault]
          exact hq
        · rw [Files.exists?, Files.locate, hfault] at hnew
          cases hnew
      rw [Files.exists?, hlocate] at hnew
      have hnone := Bool.or_eq_false_iff.mp (Except.ok.inj hnew)
      refine ⟨_, ⟨⟨rfl, hlocate, hnone.2⟩, hnamed, hmade⟩, ?_⟩
      exact Option.isNone_iff_eq_none.mp (by simpa [Files.isFile] using hnone.1)

/-- The text of the log at a place, empty when there is none. -/
def textAt (w : Workspace) (p : Path) : String := (w.files.content? p).getD ""

/-- Writing the file of the log keeps it writable. -/
theorem WritesAt.put (h : w.WritesAt directory p) (text : String) :
    ({ w with files := w.files.put p text } : Workspace).WritesAt directory p where
  on := h.on
  located := Files.locate_put h.located p text
  free := h.free

/-- Writing the file of the log keeps it writable and readable. -/
theorem LogsAt.put (h : w.LogsAt directory p) (text : String) :
    ({ w with files := w.files.put p text } : Workspace).LogsAt directory p where
  toWritesAt := h.toWritesAt.put text
  named := h.named
  made := h.made.put h.free text

/-- **An event that is emitted adds its line** to the log. -/
theorem WritesAt.emit (h : w.WritesAt directory p) {e : Event} {stamp line : String}
    (hline : e.line? stamp = some line) : w.emit stamp e =
      { w with files := w.files.put p (Event.Log.added (w.textAt p) line) } := by
  have htarget : w.files.target (logFile directory) = .ok p :=
    Files.target_eq_ok_iff.mpr ⟨h.located, h.free⟩
  rw [Workspace.emit, h.on, hline]
  simp only [Files.append, htarget, bind, Except.bind]
  rw [Event.Log.added, textAt, String.append_assoc]

/-- The text at a place is what was written there. -/
theorem textAt_put (w : Workspace) (p : Path) (text : String) :
    ({ w with files := w.files.put p text } : Workspace).textAt p = text := by
  rw [textAt, Files.content?_put, Option.getD_some]

/-- The directory of a log that can be written and read is made. -/
theorem LogsAt.makeDirectories_eq (h : w.LogsAt directory p) :
    w.files.makeDirectories directory = .ok w.files := by
  have hmake : w.files.make directory = (w.files, none) := by
    rw [Files.make, h.named]
    exact h.made.makeFrom_eq false
  rw [Files.makeDirectories_eq_ok_iff, Files.afterMake, hmake]
  exact ⟨rfl, rfl⟩

/-- The text of the log is that at its place. -/
theorem LogsAt.logText_eq (h : w.LogsAt directory p) :
    w.logText directory = .ok (w.textAt p, w) := by
  rw [logText, h.makeDirectories_eq]
  simp only [bind, Except.bind, Files.exists?, h.located, h.free, Bool.or_false, Files.isFile]
  rw [textAt]
  cases hcontent : w.files.content? p with
  | none => rfl
  | some text =>
      simp only [Option.isSome_some, if_true, Files.read, h.located, bind, Except.bind, hcontent]
      rfl

/-- The workspace after events were emitted one by one, each at its time. -/
def emitEach (w : Workspace) (es : List (String × Event)) : Workspace :=
  es.foldl (fun w p => w.emit p.1 p.2) w

/-- The outcome of a computation, and the workspace after its events were logged, each at its
**own time**. -/
def performAt {α : Type} (times : Nat → String) (w : Workspace) (c : Computation α) :
    Except Failure α × Workspace :=
  (c.outcome, w.emitEach (c.events.mapIdx fun i e => (times i, e)))

/-- Emitting events at one time is emitting each of them with that time. -/
theorem emitAll_eq_emitEach (stamp : String) (w : Workspace) (es : List Event) :
    w.emitAll stamp es = w.emitEach (es.map (Prod.mk stamp)) := by
  rw [Workspace.emitEach, emitAll, List.foldl_map]

/-- A computation that takes no time logs all its events at one time. -/
theorem performAt_const {α : Type} (stamp : String) (w : Workspace) (c : Computation α) :
    w.performAt (fun _ => stamp) c = w.perform stamp c := by
  have hmap : (c.events.mapIdx fun _ e => (stamp, e)) = c.events.map (Prod.mk stamp) := by
    rw [List.mapIdx_eq_iff]
    intro i
    rw [List.getElem?_map]
  rw [performAt, perform, hmap, emitAll_eq_emitEach]

/-- **A log that can be written grows by the records** of the events, in their order, and can be
written afterwards. -/
theorem WritesAt.emitEach (h : w.WritesAt directory p) {es : List (String × Event)}
    (hes : ∀ e ∈ es, e.2.HasProperContext) :
    (w.emitEach es).WritesAt directory p ∧
      Event.Log.GrowsBy (w.textAt p) ((w.emitEach es).textAt p)
        (es.map fun e => e.2.logged e.1) := by
  induction es generalizing w with
  | nil => exact ⟨h, Event.Log.growsBy_nil_iff.mpr rfl⟩
  | cons e es ih =>
      obtain ⟨line, hline, -⟩ := Event.exists_line? (hes e List.mem_cons_self) e.1
      have hemit := h.emit hline
      have hnext := h.put (Event.Log.added (w.textAt p) line)
      have htext := textAt_put w p (Event.Log.added (w.textAt p) line)
      rw [← hemit] at hnext htext
      obtain ⟨hafter, hgrows⟩ := ih hnext (fun f hf => hes f (List.mem_cons_of_mem e hf))
      rw [htext] at hgrows
      rw [Event.line?_eq] at hline
      exact ⟨hafter, Event.Log.growsBy_cons_iff.mpr ⟨line, hline, hgrows⟩⟩

/-- Events keep a log readable, whether they can be written or not. -/
theorem LogsAt.logsAt_emitEach (h : w.LogsAt directory p) (es : List (String × Event)) :
    (w.emitEach es).LogsAt directory p := by
  induction es generalizing w with
  | nil => exact h
  | cons e es ih =>
      refine @ih (w.emit e.1 e.2) ?_
      cases hline : e.2.line? e.1 with
      | none =>
          rw [Workspace.emit, h.on, hline]
          exact h
      | some line =>
          rw [h.emit hline]
          exact h.put _

/-- **Every event of a run adds its record** to those of the log. -/
theorem LogsAt.emitEach (h : w.LogsAt directory p) {es : List (String × Event)}
    (hes : ∀ e ∈ es, e.2.HasProperContext) {vs : List (Json LooseText)}
    (hvalues : Event.Log.values (Text.lines (w.textAt p).toList) = .ok vs)
    (hends : Text.fragment (w.textAt p).toList = []) :
    (w.emitEach es).LogsAt directory p ∧
      Event.Log.values (Text.lines ((w.emitEach es).textAt p).toList) =
        .ok (vs ++ es.map fun e => (e.2.logged e.1).loose) := by
  refine ⟨h.logsAt_emitEach es, ?_⟩
  rw [Event.Log.values_of_growsBy hes hends (h.toWritesAt.emitEach hes).2, hvalues]
  rfl

end Workspace

end SheetFormula
