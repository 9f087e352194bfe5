import SheetFormula.Command.Run
import SheetFormula.Event.Stamp
import Std.Time.DateTime.Timestamp

/-!
# The Program

Runs a command line on the files of the machine. The files that it may look at are taken into
a tree, the command line is run on that tree, and what it changed is written back.
-/

namespace SheetFormula.Program

/-- The parts of the path of the working directory. -/
def here : IO Path := do return FileName.ofText (← IO.currentDir).toString |>.filter (· != "/")

/-- The text of a path from the root. -/
def pathText (p : Path) : String := "/" ++ "/".intercalate p

/-- The tree with what is there at a path. -/
def takeIn (files : Files) (p : Path) : IO Files := do
  let place := (← IO.currentDir) / pathText p
  if ← place.isDir then return files.addDirectory p
  else if ← place.pathExists then return files.put p (← IO.FS.readFile place)
  else return files

/-- The names in a directory that fit a part of a name with wildcards. -/
def namesLike (p : Path) (part : String) : IO (List String) := do
  let place := (← IO.currentDir) / pathText p
  match FileName.isPattern part, FileName.Piece.ofChars? part.length part.toList with
  | true, some pieces =>
      if ← place.isDir then
        let names := (← place.readDir).toList.map (·.fileName)
        return names.filter fun name => FileName.Piece.fit pieces name.toList
      else return []
  | _, _ => return []

/-- The tree with what is there at all places on the way of a name, and of the names that fit
it if it has wildcards. -/
def takeInName (files : Files) (name : FileName) : IO Files := do
  let mut files := files
  let mut places := [files.here]
  for part in name do
    let mut reached := []
    for place in places do
      let names ← namesLike place part
      reached := reached ++ Files.step place part :: names.map fun name => place ++ [name]
    for place in reached do
      files ← takeIn files place
    places := reached
  return files

/-- The names of files that words may mean: the words, and what is behind their equals signs.
The settings file of each of them is among the names. -/
def namesIn (words : List String) : List FileName :=
  let texts := "." :: words ++ words.filterMap fun word => (Command.splitWord word).2
  texts.flatMap fun text => [FileName.ofText text, Settings.fileIn (FileName.ofText text)]

/-- The name of the log that a command adds to or shows, if there are settings. -/
def logName? (files : Files) : Command → Option FileName
  | .eval _ scene | .tree _ scene => ofDirectory (FileName.ofText scene.directory)
  | .events directory _ => ofDirectory (FileName.ofText directory)
  | _ => none
where
  ofDirectory (directory : FileName) : Option FileName :=
    match Settings.load files directory with
    | .ok settings => (settings.logDirectory? directory).map Workspace.logFile
    | .error _ => none

/-- The tree of the files that a command line may look at. -/
def gather (words : List String) : IO Files := do
  let here ← here
  let way := (List.range here.length).map fun n => here.take (n + 1)
  let mut files : Files := { texts := [], directories := way, here }
  for name in namesIn words do
    files ← takeInName files name
  match Command.read files words with
  | .ok c => match logName? files c with
      | some name => takeInName files name
      | none => return files
  | .error _ => return files

/-- Writes back the directories and files that differ from those before. -/
def writeBack (before after : Files) : IO Unit := do
  for p in after.directories do
    if !before.isDirectory p then IO.FS.createDirAll (pathText p)
  for (p, text) in after.texts do
    if before.content? p != some text then IO.FS.writeFile (pathText p) text

/-- The time in microseconds after the beginning of the year 1970. -/
def now : IO Nat := do
  let time ← Std.Time.Timestamp.now
  return time.toNanosecondsSinceUnixEpoch.val.toNat / 1000

/-- What is said of a fault that no command foresees. -/
def crashText : Command.Crash → String
  | .failure f => f.message
  | .template f => f.message
  | .settings file f => (f.message? file).getD ("The settings in " ++ file ++ " cannot be read.")
  | .files f => f.message?.getD "A file or directory cannot be used."
  | .frame _ => "The grid cannot be read."
  | .log _ | .levelNotText => "The log cannot be read."
  | .logNotText => "The directory of the log is not a text."
  | .torn => "A text with a half of a character cannot be used."

/-- Runs the command line of the given words. The time that it takes is found by a first run,
which changes nothing. -/
def runWords (words : List String) : IO UInt32 := do
  let files ← gather words
  let stamp := Event.stampOf (← now)
  let began ← IO.monoNanosNow
  let _ ← IO.lazyPure fun _ => Command.runLine stamp .null files words
  let ended ← IO.monoNanosNow
  let elapsed := Decimal.ofInt ((ended - began) / 1000) / 1000.0
  let result := Command.runLine stamp (.real elapsed) files words
  writeBack files result.files
  (← IO.getStdout).putStr result.out
  (← IO.getStderr).putStr result.said
  match result.stop with
  | some (.crashed c) => (← IO.getStderr).putStrLn (crashText c)
  | _ => pure ()
  return UInt32.ofNat result.code

end SheetFormula.Program

/-- Runs the command line. -/
def main (words : List String) : IO UInt32 := SheetFormula.Program.runWords words
