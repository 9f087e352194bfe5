import SheetFormula.Proofs.ShownEvents

/-!
# Settings that are Refused

The value in a settings file has to be a record, or nothing at all. What becomes of another value
depends on two things. Values that count as false are taken for nothing before their kind is looked
at, and give the default settings. The others are refused, and then it matters which command has
asked: the commands that compute tell what is wrong, `events` does not foresee it.

## Main results

* `Settings.ofDatum_of_not_record`: what a value that is no record gives.
* `Command.run_of_notRecord`: how a command that uses settings ends when these are no record.
* `Command.Line.tellsKind_iff`: **which command lines tell that the settings are no record**.
-/

namespace SheetFormula

namespace Settings

open Command.Line (onlySettings read_onlySettings)

variable {files : Files} {directory : FileName} {d : Datum}

/-- The settings file of a directory **holds a value**. -/
def FileHolds (files : Files) (directory : FileName) (d : Datum) : Prop :=
  ∃ text, files.read (fileIn directory) = .ok text ∧ Yaml.read text = .ok d

/-- A **record** of settings. -/
def IsRecord (d : Datum) : Prop := ∃ fields, d = .record fields

/-- Settings are loaded from the value that the file holds. -/
theorem FileHolds.load_eq (h : FileHolds files directory d) : load files directory = ofDatum d := by
  obtain ⟨text, hread, hvalue⟩ := h
  rw [load_of_read hread, Settings.read, hvalue]

/-- A value that is no record is refused by its kind, unless it counts as false. -/
theorem ofDatum_of_not_record (hrecord : ¬ IsRecord d) :
    ofDatum d = if d.truthy then .error (.notRecord d.kind) else .ok defaults := by
  cases d with
  | record fields => exact absurd ⟨fields, rfl⟩ hrecord
  | _ => rfl

/-! ### Two lists in a settings file -/

/-- A list is no record. -/
theorem not_isRecord_list (items : List Datum) : ¬ IsRecord (.list items) := by
  rintro ⟨fields, h⟩
  cases h

/-- A file holds the value of the document that its text is read as. -/
theorem holds_of_document {text : String} (document : Yaml.Document) (id : Yaml.NodeId)
    (hallowed : (Text.unifyLineEnds text.toList).all Yaml.isAllowed = true)
    (hread : Yaml.Document.read? (Text.unifyLineEnds text.toList) = .ok (some (document, id)))
    (hvalue : document.value id = .ok d) : FileHolds (onlySettings text) [] d :=
  ⟨text, read_onlySettings text, (Yaml.read_of_document hallowed hread).trans hvalue⟩

/-- The text of an empty list holds the empty list. -/
theorem holds_empty : FileHolds (onlySettings "[]") [] (.list []) :=
  holds_of_document #[.sequence .seq []] 0 (by cbv) (by cbv) rfl

/-- The text of a list of one text holds this list. -/
theorem holds_list : FileHolds (onlySettings "[\"a\"]") [] (.list [.text "a"]) :=
  holds_of_document #[.sequence .seq [1], .scalar .str "a"] 0 (by cbv) (by cbv) rfl

end Settings

namespace Command

open Settings (FileHolds IsRecord)

/-! ### Commands whose settings are refused -/

/-- The directory of the settings that a command uses, as it is written on the command line. -/
def settled? : Command → Option String
  | .eval _ s | .tree _ s => some s.directory
  | .events directory _ => some directory
  | _ => none

/-- What is said of settings of another kind than a record. -/
def kindMessage (directory : FileName) (k : Datum.Kind) : String :=
  (Settings.fileIn directory).text ++ " must contain a mapping, got " ++ k.name

/-- How a command ends when its settings are of another kind than a record: the commands that
compute refuse them, others do not foresee it. -/
def stopOf (c : Command) (directory : FileName) (k : Datum.Kind) : Stop :=
  if c.scene?.isSome then .refused (kindMessage directory k)
  else .crashed (.settings (Settings.fileIn directory).text (.notRecord k))

namespace Run

variable {α : Type} {p : Progress} {directory : FileName} {k : Datum.Kind}

/-- Settings that are no record end a command, with the message that tells the kind or with a crash.
-/
theorem settingsOf_of_notRecord (h : Settings.load p.space.files directory = .error (.notRecord k))
    (tells : Bool) : (settingsOf tells directory).runFrom p =
      (.error (if tells then .refused (kindMessage directory k)
        else .crashed (.settings (Settings.fileIn directory).text (.notRecord k))), p) := by
  rw [settingsOf, runFrom_files_bind, h]
  cases tells <;> rfl

/-- A command that computes refuses settings that are no record and says their kind. -/
theorem computing_of_notRecord {s : Scene}
    (h : Settings.load p.space.files (FileName.ofText s.directory) = .error (.notRecord k))
    (stamp : String) (c : Option Grid → Computation α) (present : Settings → α → Run Unit) :
    (computing stamp s c present).runFrom p =
      (.error (.refused (kindMessage (FileName.ofText s.directory) k)), p) := by
  have hsetUp : (setUp (FileName.ofText s.directory)).runFrom p =
      (.error (.refused (kindMessage (FileName.ofText s.directory) k)), p) := by
    rw [setUp]
    exact runFrom_bind_of_error (settingsOf_of_notRecord h true) _
  rw [computing]
  exact runFrom_bind_of_error hsetUp _

end Run

/-- **A command whose settings are no record** ends before it has done anything. -/
theorem run_of_notRecord {c : Command} {text : String} {p : Progress} {k : Datum.Kind}
    (hsettled : c.settled? = some text)
    (h : Settings.load p.space.files (FileName.ofText text) = .error (.notRecord k))
    (stamp : String) (elapsed : Json) : Run.runFrom (c.run stamp elapsed) p =
      (.error (c.stopOf (FileName.ofText text) k), p) := by
  cases c with
  | eval formula s =>
      obtain rfl := Option.some.inj hsettled
      rw [run, Run.eval_eq, Run.computing_of_notRecord h]
      rfl
  | tree formula s =>
      obtain rfl := Option.some.inj hsettled
      rw [run, Run.tree_eq, Run.computing_of_notRecord h]
      rfl
  | events directory choice =>
      obtain rfl := Option.some.inj hsettled
      rw [run, Run.events, Run.runFrom_bind_of_error (Run.settingsOf_of_notRecord h false)]
      rfl
  | version | help | init | tokens => cases hsettled

namespace Line

variable {files : Files} {directory : FileName} {d : Datum} {l : Line} {c : Command} {text : String}

/-- A command line **tells the kind** of the value in the settings file: no settings come of it, and
the line says so, prints nothing and changes no file. -/
def TellsKind (files : Files) (directory : FileName) (k : Datum.Kind) (l : Line) : Prop :=
  Settings.load files directory = .error (.notRecord k) ∧
    l.run files = ⟨"", some (.refused (kindMessage directory k)), files⟩

/-- A line whose settings are no record writes nothing and ends as its command does. -/
theorem run_of_notRecord (hread : Command.read files l.words = .ok c)
    (hsettled : c.settled? = some text) {k : Datum.Kind}
    (h : Settings.load files (FileName.ofText text) = .error (.notRecord k)) :
    l.run files = ⟨"", some (c.stopOf (FileName.ofText text) k), files⟩ := by
  rw [run_of_ok hread, Command.run_of_notRecord hsettled h]

/-- **Which command lines tell that the settings are no record.** A value of another kind that
counts as true is told by the commands that compute, and is not foreseen by `events`. One that
counts as false gives the default settings instead. -/
theorem tellsKind_iff (hread : Command.read files l.words = .ok c)
    (hsettled : c.settled? = some text) (hdirectory : FileName.ofText text = directory)
    (hholds : FileHolds files directory d) (hrecord : ¬ IsRecord d) :
    (l.TellsKind files directory d.kind ↔ d.truthy = true ∧ c.scene?.isSome = true) ∧
    (Settings.load files directory = .error (.notRecord d.kind) ↔ d.truthy = true) ∧
    (d.truthy = false → Settings.load files directory = .ok Settings.defaults) ∧
    (d.truthy = true → c.scene? = none → l.run files = ⟨"", some (.crashed
      (.settings (Settings.fileIn directory).text (.notRecord d.kind))), files⟩) := by
  obtain rfl := hdirectory
  have hload := hholds.load_eq.trans (Settings.ofDatum_of_not_record hrecord)
  cases htruthy : d.truthy with
  | false =>
      rw [htruthy] at hload
      have hnot : Settings.load files (FileName.ofText text) ≠ .error (.notRecord d.kind) := by
        rw [hload]
        exact fun h => by cases h
      refine ⟨⟨fun h => absurd h.1 hnot, fun h => by cases h.1⟩, ⟨fun h => absurd h hnot, ?_⟩,
        fun _ => hload, ?_⟩
      · exact fun h => by cases h
      · exact fun h => by cases h
  | true =>
      rw [htruthy] at hload
      have hrun := run_of_notRecord hread hsettled hload
      rw [TellsKind, hrun, stopOf]
      cases hscene : c.scene? with
      | none =>
          refine ⟨⟨fun h => ?_, fun h => by cases h.2⟩, ⟨fun _ => rfl, fun _ => hload⟩, ?_, ?_⟩
          · cases h.2
          · exact fun h => by cases h
          · exact fun _ _ => rfl
      | some s =>
          refine ⟨⟨fun _ => ⟨rfl, rfl⟩, fun _ => ⟨hload, rfl⟩⟩, ⟨fun _ => rfl, fun _ => hload⟩,
            ?_, ?_⟩
          · exact fun h => by cases h
          · exact fun _ h => by cases h

/-- A list of settings is told when the tree of a formula is asked for. -/
theorem tellsKind_iff_list :
    FileHolds (onlySettings "[\"a\"]") [] (.list [.text "a"]) ∧
    (treeOf "=1" "t1").TellsKind (onlySettings "[\"a\"]") [] .list :=
  ⟨Settings.holds_list, (tellsKind_iff (read_treeOf _ _ _) rfl ofText_point Settings.holds_list
    (Settings.not_isRecord_list _)).1.mpr ⟨rfl, rfl⟩⟩

/-- **Not all command lines tell** that the settings are no record: a list that is empty is told by
none of them, and `events` tells of no list. -/
theorem not_tellsKind :
    (FileHolds (onlySettings "[]") [] (.list []) ∧
      Settings.load (onlySettings "[]") [] = .ok Settings.defaults ∧
      ¬ (treeOf "=1" "t1").TellsKind (onlySettings "[]") [] .list) ∧
    (FileHolds (onlySettings "[\"a\"]") [] (.list [.text "a"]) ∧
      ((⟨["events"], "t1", 0⟩ : Line).run (onlySettings "[\"a\"]")).said = "" ∧
      ¬ (⟨["events"], "t1", 0⟩ : Line).TellsKind (onlySettings "[\"a\"]") [] .list) := by
  refine ⟨⟨Settings.holds_empty, Settings.holds_empty.load_eq, fun h => ?_⟩,
    Settings.holds_list, ?_⟩
  · have hload := Settings.holds_empty.load_eq.symm.trans h.1
    cases hload
  · have hload : Settings.load (onlySettings "[\"a\"]") (FileName.ofText ".") =
        .error (.notRecord .list) := by
      rw [ofText_point]
      exact Settings.holds_list.load_eq
    have hrun := run_of_notRecord (l := ⟨["events"], "t1", 0⟩) (read_events _) rfl hload
    rw [hrun]
    refine ⟨rfl, fun h => ?_⟩
    have hstop := congrArg Result.stop (hrun.symm.trans h.2)
    cases hstop

end Line

end Command

end SheetFormula
