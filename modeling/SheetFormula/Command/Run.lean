import SheetFormula.Command.Basic
import SheetFormula.Files.Pattern
import SheetFormula.Grid.Csv
import SheetFormula.Settings
import SheetFormula.Text.Control
import SheetFormula.Text.Uppercase

/-!
# Running Commands

What a command prints, how it ends, and the files it leaves. A command that is refused says
why. A few faults are not foreseen by the commands; they end a run without a message, after
what was printed before. Nothing that is printed or said has control sequences in it.
-/

namespace SheetFormula.Command

open Text

/-- A fault that no command foresees. -/
inductive Crash
  | failure (f : Failure)
  | template (f : Template.Fault)
  /-- A fault in the settings file with the name. -/
  | settings (file : String) (f : Settings.Fault)
  | files (f : Files.Fault)
  | frame (f : Frame.Fault)
  | log (f : Event.Log.Fault)
  /-- The directory of the log is no text. -/
  | logNotText
  /-- The level of an event is no text. -/
  | levelNotText
  /-- A text to be printed, or the directory of the log, has halves of characters in it. -/
  | torn

/-- How a run ends before its end. -/
inductive Stop
  /-- The command line does not fit. -/
  | misused (m : Misuse)
  /-- The command says why it cannot be done. -/
  | refused (message : String)
  | crashed (c : Crash)

/-- The number that a run ends with. -/
def Stop.code : Stop → Nat
  | .misused _ => 2
  | .refused _ | .crashed _ => 1

/-- What is said at the end of a run. -/
def Stop.text : Stop → String
  | .misused m => withoutControls m.text
  | .refused message => withoutControls ("Error: " ++ message ++ "\n")
  | .crashed _ => ""

/-- What a run has printed, and the workspace. -/
structure Progress where
  out : String
  space : Workspace

/-- A **run** of a command, from the workspace on. -/
abbrev Run (α : Type) : Type := ExceptT Stop (StateM Progress) α

namespace Run

/-- Prints a line. -/
def print (line : String) : Run Unit :=
  modify fun p => { p with out := p.out ++ withoutControls line ++ "\n" }

/-- Ends the run with a message. -/
def refuse {α : Type} (message : String) : Run α := throw (.refused message)

/-- Ends the run with a fault that is not foreseen. -/
def crash {α : Type} (c : Crash) : Run α := throw (.crashed c)

/-- A result, whose fault is not foreseen. -/
def orCrash {ε α : Type} (why : ε → Crash) : Except ε α → Run α
  | .ok a => pure a
  | .error e => crash (why e)

/-- The files of the workspace. -/
def files : Run Files := do return (← get).space.files

/-- Puts other files in place of those of the workspace. -/
def setFiles (fs : Files) : Run Unit :=
  modify fun p => { p with space := { p.space with files := fs } }

/-- A result on a formula: a fault in the formula is told. The message begins with `before`. -/
def orRefuse {α : Type} (before : String) : Except Failure α → Run α
  | .ok a => pure a
  | .error (.fault f) => refuse (before ++ f.message)
  | .error e => crash (.failure e)

/-- The settings of a directory. What is wrong with a value in them is told, if that is asked
for. -/
def settingsOf (tells : Bool) (directory : FileName) : Run Settings := do
  let file := (Settings.fileIn directory).text
  match Settings.load (← files) directory with
  | .ok s => pure s
  | .error f =>
      match f.message? file with
      | some message => if tells then refuse message else crash (.settings file f)
      | none => crash (.settings file f)

/-- The settings of a directory, which say where the events of the run are logged. -/
def setUp (directory : FileName) : Run Settings := do
  let settings ← settingsOf true directory
  match (← get).space.configure settings directory with
  | .ok space => modify fun p => { p with space }
  | .error .notText => crash .logNotText
  | .error .torn => crash .torn
  | .error (.files f left) =>
      setFiles left
      crash (.files f)
  pure settings

/-- The selected cell, if one is given. -/
def selected (select : Option String) : Run (Option Address) :=
  match select with
  | none => pure none
  | some text =>
      if text.isEmpty then pure none
      else some <$> orRefuse "Invalid --select: " (Address.ofSelection text)

/-- The frame in the file with the name. A name with wildcards stands for the files that fit
it, whose frames follow one another. -/
def frameOf (file : String) : Run Frame := do
  let name := FileName.ofText file
  if FileName.isPattern file then
    match (← files).textsMatching? name with
    | some texts => orCrash .frame (Frame.ofTexts texts)
    | none => crash (.frame .unreadable)
  else orCrash .frame (Frame.ofCsv (← orCrash .files ((← files).read name)))

/-- The grid of a scene, if one is given. -/
def gridOf (s : Scene) : Run (Option Grid) := do
  match s.grid with
  | none => if s.select.any (!·.isEmpty) then refuse "--select requires --grid" else pure none
  | some file =>
      let selected ← selected s.select
      let frame ← frameOf file
      return some ⟨.frame frame, selected⟩

/-- The value of a computation, whose events are logged at the time `stamp`. -/
def perform {α : Type} (stamp : String) (c : Computation α) : Run α := do
  let (outcome, space) := (← get).space.perform stamp c
  modify fun p => { p with space }
  orRefuse "" outcome

/-- A text with spaces behind it up to a width. -/
def padded (width : Nat) (s : String) : String :=
  s ++ String.ofList (List.replicate (width - s.length) ' ')

/-- The line that shows a token. -/
def tokenLine (t : Token) : String := padded 15 t.kind.name ++ " " ++ t.text

/-- A token as a record. -/
def tokenRecord (t : Token) : Json :=
  .record [("type", .text t.kind.name), ("value", .text t.text)]

/-- The named values of an event of the log. -/
abbrev Fields : Type := List (LooseText × Json LooseText)

/-- The text of a field of an event, empty when there is no such field. A text with halves of
characters in it has none. -/
def fieldText? (fields : Fields) (name : String) : Option String :=
  match Json.lookup (.whole name) fields with
  | none => some ""
  | some j => (Datum.ofLoose j).text?

/-- The level of an event, empty when there is no such field, and none when it is no text. -/
def levelOf? (fields : Fields) : Option LooseText :=
  match Json.lookup (.whole "level") fields with
  | none => some (.whole "")
  | some j => j.text?

/-- What the line that shows an event says of its error, nothing when there is none. -/
def codePart? (fields : Fields) : Option String :=
  match Json.lookup (.whole "error_code") fields with
  | none => some ""
  | some j =>
      if j.truthyBy LooseText.isEmpty then
        (Datum.ofLoose j).text?.map fun code => "  (" ++ code ++ ")"
      else some ""

/-- The line that shows an event of the level, none when there are halves of characters in it. -/
def eventLine? (fields : Fields) (level : LooseText) : Option String := do
  let stamp ← fieldText? fields "ts"
  let level ← level.string?
  let kind ← fieldText? fields "event_type"
  let message ← fieldText? fields "message"
  let code ← codePart? fields
  return "[" ++ stamp ++ "] " ++ padded 7 (upper level) ++ " " ++ kind ++ ": " ++ message ++ code

/-- Shows an event of the log. -/
def showEvent (event : Json LooseText) : Run Unit :=
  match event.fields? with
  | none => crash (.log .notRecord)
  | some fields =>
      match levelOf? fields with
      | none => crash .levelNotText
      | some level =>
          match eventLine? fields level with
          | some line => print line
          | none => crash .torn

/-- What is asked of the log. -/
def filterOf (c : Choice) : Event.Filter where
  level := c.level.elim .null .text
  kind := c.kind.elim .null .text
  limit := some c.limit

/-- Makes a directory and those on the way to it. What was made stays when that fails. -/
def makeDirectory (directory : FileName) : Run Files := do
  let (fs, fault) := (← files).make directory
  setFiles fs
  match fault with
  | none => pure fs
  | some f => crash (.files f)

/-- Makes a settings file in a directory, where there is none yet. -/
def init (directory : FileName) : Run Unit := do
  let file := Settings.fileIn directory
  let fs ← makeDirectory directory
  if ← orCrash .files (fs.exists? file) then refuse (file.text ++ " already exists")
  else
    setFiles (← orCrash .files (fs.write file Settings.defaultText))
    print ("Created " ++ file.text)

/-- Shows the value of a formula. -/
def eval (stamp : String) (elapsed : Json) (formula : String) (s : Scene) : Run Unit := do
  let settings ← setUp (FileName.ofText s.directory)
  let grid ← gridOf s
  let value ← perform stamp (Computation.compute grid elapsed formula)
  print (← orCrash .template (settings.display (.real value)))

/-- Shows the tokens of a formula. -/
def tokens (formula : String) (asJson : Bool) : Run Unit :=
  match tokenize formula with
  | .error site => refuse (SheetFormula.Fault.unreadable site).message
  | .ok ts => do
      if asJson then print (((Json.list (ts.map tokenRecord)).indented? 0).getD "")
      else ts.forM fun t => print (tokenLine t)

/-- Shows a formula with all its parentheses and without references. -/
def tree (stamp : String) (formula : String) (s : Scene) : Run Unit := do
  let _ ← setUp (FileName.ofText s.directory)
  let grid ← gridOf s
  let f ← perform stamp (Computation.compile grid formula)
  print f.text

/-- Shows the events of the log that are asked for. -/
def events (directory : FileName) (c : Choice) : Run Unit := do
  let settings ← settingsOf false directory
  match settings.logDirectory? directory with
  | none => if settings.hasTornLog then print "No events found." else crash .logNotText
  | some place =>
      if ← orCrash .files ((← files).exists? (Workspace.logFile place)) then
        let (text, space) ← orCrash .files ((← get).space.logText place)
        modify fun p => { p with space }
        let found ← orCrash .log (Event.Log.read (filterOf c) text)
        if found.isEmpty then print "No events found." else found.forM showEvent
      else print "No events found."

end Run

/-- What a command does. Events are logged at the time `stamp`, and computing takes the time
`elapsed`. -/
def run (stamp : String) (elapsed : Json) : Command → Run Unit
  | .version => Run.print "cellcalc, version 0.1.0"
  | .help form => modify fun p => { p with out := p.out ++ form.help }
  | .init directory => Run.init (FileName.ofText directory)
  | .eval formula scene => Run.eval stamp elapsed formula scene
  | .tokens formula asJson => Run.tokens formula asJson
  | .tree formula scene => Run.tree stamp formula scene
  | .events directory choice => Run.events (FileName.ofText directory) choice

/-- What comes of a **command line**: the text that is printed, how it stops if it does not
come to its end, and the files. -/
structure Result where
  out : String
  stop : Option Stop
  files : Files

/-- The number that a command line ends with. -/
def Result.code (r : Result) : Nat := r.stop.elim 0 Stop.code

/-- What is said beside the text that is printed. -/
def Result.said (r : Result) : String := r.stop.elim "" Stop.text

/-- Runs a **command line** on files. -/
def runLine (stamp : String) (elapsed : Json) (files : Files) (words : List String) : Result :=
  match Command.read files words with
  | .error (.misused m) => ⟨"", some (.misused m), files⟩
  | .error (.files f) => ⟨"", some (.crashed (.files f)), files⟩
  | .ok c =>
      match (c.run stamp elapsed).run.run ⟨"", ⟨files, none⟩⟩ with
      | (.ok _, p) => ⟨p.out, none, p.space.files⟩
      | (.error stop, p) => ⟨p.out, some stop, p.space.files⟩

end SheetFormula.Command
