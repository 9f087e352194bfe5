import SheetFormula.Template.Basic
import SheetFormula.Workspace
import SheetFormula.Yaml.Value

/-!
# Settings

Named values that say where events are logged and how numbers are shown. Each setting has a
default, a settings file may give others, and names that mean nothing here are kept.
-/

namespace SheetFormula

/-- **Settings**: values by name. -/
structure Settings where
  entries : List (Datum × Datum)

namespace Settings

/-- The name of the settings file in its directory. -/
def fileName : String := "cellcalc.yaml"

/-- The template that shows numbers when no other one is set: at most six significant
digits. -/
def defaultTemplate : String := "\x7b:g\x7d"

/-- The directory of the log when no other one is set. -/
def defaultLog : String := "logs"

/-- The **default settings**. -/
def defaults : Settings :=
  ⟨[(.text "log_dir", .text defaultLog),
    (.text "logging_enabled", .bool true),
    (.text "logging_fsync", .bool false),
    (.text "number_format", .text defaultTemplate)]⟩

/-- The text of a settings file that sets nothing and names the defaults. -/
def defaultText : String :=
  "# cellcalc configuration\n" ++
  "# log_dir: logs            # structured event log, relative to this file\n" ++
  "# logging_enabled: true\n" ++
  "# logging_fsync: false\n" ++
  "# number_format: \"\x7b:g\x7d\"    # how the CLI prints results\n"

/-- The value of a setting. -/
def get? (s : Settings) (name : String) : Option Datum := Datum.lookup name s.entries

/-- Settings with others in place of them or beside them. -/
def update (s : Settings) (others : List (Datum × Datum)) : Settings :=
  ⟨others.foldl (fun entries (k, v) => Datum.put k v entries) s.entries⟩

/-- Why there are no settings. -/
inductive Fault
  /-- The settings file cannot be read. -/
  | files (f : Files.Fault)
  /-- The text of the settings file writes no value. -/
  | text (f : Yaml.Fault)
  /-- The value is of another kind than a record. -/
  | notRecord (found : Datum.Kind)
  deriving DecidableEq, Repr

/-- The message of a fault in a settings file with the given name, as far as the fault lies
in a value. -/
def Fault.message? (file : String) : Fault → Option String
  | .files _ => none
  | .text f => if f.isValue then f.message? else none
  | .notRecord found => some (file ++ " must contain a mapping, got " ++ found.name)

/-- The settings that a value gives: the defaults when it is empty, and none when it is no
record. -/
def ofDatum (d : Datum) : Except Fault Settings :=
  if d.truthy then
    match d with
    | .record fields => .ok (defaults.update fields)
    | d => .error (.notRecord d.kind)
  else .ok defaults

/-- The settings that the text of a settings file gives. -/
def read (text : String) : Except Fault Settings :=
  match Yaml.read text with
  | .ok d => ofDatum d
  | .error f => .error (.text f)

/-- The name of the settings file in a directory. -/
def fileIn (directory : FileName) : FileName := directory ++ [fileName]

/-- The settings of a directory: those of its settings file, or the defaults when there is
none. -/
def load (files : Files) (directory : FileName) : Except Fault Settings :=
  let name := fileIn directory
  match files.exists? name, files.read name with
  | .ok true, .ok text => read text
  | .ok false, _ => .ok defaults
  | .ok true, .error f | .error f, _ => .error (.files f)

/-- The template that shows numbers: the default one when the setting does not count as true. -/
def template (s : Settings) : Datum :=
  match s.get? "number_format" with
  | some t => if t.truthy then t else .text defaultTemplate
  | none => .text defaultTemplate

/-- The text of a number as it is shown by the template that is set. A half of a character in
the template cannot be printed: there is a text only where it does not depend on the character
that stands for the halves. -/
def display (s : Settings) (value : Datum) : Except Template.Fault String :=
  match s.template with
  | .text t => do
      let shown ← Template.fill t.replaced value
      if shown = (← Template.fill (t.filledWith '\ufffc') value) then return shown
      else throw .torn
  | d => match d.text? with
      | some t => Template.fill t value
      | none => throw .unwritable

/-- Whether events are logged. -/
def logs (s : Settings) : Bool := ((s.get? "logging_enabled").getD (.bool true)).truthy

/-- The directory of the log below the directory of the settings, none when the setting is no
text, or one with halves of characters. -/
def logDirectory? (s : Settings) (base : FileName) : Option FileName :=
  match s.get? "log_dir" with
  | none => some (base ++ FileName.ofText defaultLog)
  | some (.text (.whole t)) => some (base ++ FileName.ofText t)
  | some _ => none

/-- Whether the directory of the log is set to a text with halves of characters, which no
directory has as its name. -/
def hasTornLog (s : Settings) : Bool := s.get? "log_dir" matches some (.text (.torn ..))

end Settings

namespace Workspace

/-- Why settings cannot be applied. -/
inductive ConfigureFault
  /-- The directory of the log is no text. -/
  | notText
  /-- The directory of the log is a text with halves of characters. -/
  | torn
  /-- The directory of the log cannot be made. Those on the way to it that were made are left. -/
  | files (f : Files.Fault) (left : Files)

/-- The workspace that logs events as the settings say, below the directory `base`. -/
def configure (w : Workspace) (s : Settings) (base : FileName) :
    Except ConfigureFault Workspace :=
  if s.logs then
    match s.logDirectory? base with
    | none => .error (if s.hasTornLog then .torn else .notText)
    | some directory =>
        match w.logTo directory with
        | .ok w => .ok w
        | .error f => .error (.files f (w.files.afterMake directory))
  else .ok w.logOff

end Workspace

end SheetFormula
