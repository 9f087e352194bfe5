import SheetFormula.Computation
import SheetFormula.Event.Log
import SheetFormula.Files

/-!
# Workspaces

A tree of files with a place for the log. Events are added to the file of the log in its
directory, as long as that is there and the file can be written. An event that cannot be
written is lost, which changes nothing else.
-/

namespace SheetFormula

/-- A **workspace**: its files, and the directory of the log while events are logged. -/
structure Workspace where
  files : Files
  log : Option FileName

namespace Workspace

/-- The name of the file of the log in its directory. -/
def logFile (directory : FileName) : FileName := directory ++ ["events.ndjson"]

/-- The workspace in which events are logged in a directory, which is made if it is not
there. -/
def logTo (w : Workspace) (directory : FileName) : Except Files.Fault Workspace := do
  let files ← w.files.makeDirectories directory
  .ok ⟨files, some directory⟩

/-- The workspace in which no events are logged. -/
def logOff (w : Workspace) : Workspace := { w with log := none }

/-- The workspace after an event was **logged** at the time `stamp`, if that is possible. -/
def emit (stamp : String) (w : Workspace) (e : Event) : Workspace :=
  match w.log, e.line? stamp with
  | some directory, some line =>
      match w.files.append (logFile directory) (line ++ "\n") with
      | .ok files => { w with files := files }
      | .error _ => w
  | _, _ => w

/-- The workspace after the events of a computation were logged. -/
def emitAll (stamp : String) (w : Workspace) (es : List Event) : Workspace :=
  es.foldl (emit stamp) w

/-- The outcome of a computation, and the workspace after its events were logged. -/
def perform {α : Type} (stamp : String) (w : Workspace) (c : Computation α) :
    Except Failure α × Workspace :=
  (c.outcome, w.emitAll stamp c.events)

/-- Why the events of a directory cannot be read. -/
inductive ReadFault
  | files (f : Files.Fault)
  | log (f : Event.Log.Fault)

/-- The text of the log in a directory, empty when there is none. The directory is made if it
is not there. -/
def logText (w : Workspace) (directory : FileName) :
    Except Files.Fault (String × Workspace) := do
  let files ← w.files.makeDirectories directory
  let w := { w with files := files }
  if ← files.exists? (logFile directory) then
    let text ← files.read (logFile directory)
    .ok (text, w)
  else .ok ("", w)

/-- The events of the log in a directory that a filter lets through, newest first. -/
def events (w : Workspace) (directory : FileName) (filter : Event.Filter) :
    Except ReadFault (List (Json LooseText)) :=
  match w.logText directory with
  | .error f => .error (.files f)
  | .ok (text, _) =>
      match Event.Log.read filter text with
      | .error f => .error (.log f)
      | .ok vs => .ok vs

end Workspace

end SheetFormula
