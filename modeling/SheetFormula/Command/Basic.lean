import SheetFormula.Command.Usage
import SheetFormula.Decimal.Numeral
import SheetFormula.Event.Basic
import SheetFormula.Files

/-!
# Commands

What can be asked for on the command line, and how the words of a command line are read. The
options that are given are looked at in their order, then what is missing, and last the
words that are left over.
-/

namespace SheetFormula

open Text Decimal

/-- Where a formula is computed: the file of the grid and the selected cell, if they are
given, and the directory of the settings. -/
structure Command.Scene where
  grid : Option String
  select : Option String
  directory : String

/-- What a list of events is to hold. -/
structure Command.Choice where
  level : Option String
  kind : Option String
  limit : Int

/-- A **command**. -/
inductive Command
  | version
  | help (form : Command.Form)
  /-- Makes a settings file in a directory. -/
  | init (directory : String)
  /-- Shows the value of a formula. -/
  | eval (formula : String) (scene : Command.Scene)
  /-- Shows the tokens of a formula. -/
  | tokens (formula : String) (asJson : Bool)
  /-- Shows a formula with all its parentheses and without references. -/
  | tree (formula : String) (scene : Command.Scene)
  /-- Shows the events of the log. -/
  | events (directory : String) (choice : Command.Choice)

namespace Command

/-! ### Forms -/

/-- The form of the whole program. -/
def mainForm : Form where
  name := "cellcalc"
  pattern := "[OPTIONS] COMMAND [ARGS]..."
  switches := [⟨"--version", false⟩, .help]
  explanation :=
    "  cellcalc -- evaluate spreadsheet formulas from the command line.\n\n" ++
    "Options:\n" ++
    "  --version  Show the version and exit.\n" ++
    "  --help     Show this message and exit.\n\n" ++
    "Commands:\n" ++
    "  eval    Evaluate FORMULA and print the result.\n" ++
    "  events  Show the structured event log.\n" ++
    "  init    Write a commented cellcalc.yaml into DIRECTORY.\n" ++
    "  tokens  Print the token stream for FORMULA.\n" ++
    "  tree    Print FORMULA fully parenthesised, with cell references resolved.\n"

/-- The form of `init`. -/
def initForm : Form where
  name := "cellcalc init"
  pattern := "[OPTIONS] [DIRECTORY]"
  switches := [.help]
  explanation :=
    "  Write a commented cellcalc.yaml into DIRECTORY.\n\n" ++
    "Options:\n" ++
    "  --help  Show this message and exit.\n"

/-- The options of a scene. -/
def sceneSwitches : List Switch :=
  [⟨"--grid", true⟩, ⟨"--select", true⟩, ⟨"--config-dir", true⟩]

/-- What is said of these options. -/
def sceneExplanation : String :=
  "Options:\n" ++
  "  --grid FILE             CSV file holding the grid (first column = row labels).\n" ++
  "  --select TEXT           Cell being edited, e.g. B2; referencing it is an\n" ++
  "                          error.\n" ++
  "  --config-dir DIRECTORY  Directory containing cellcalc.yaml.\n" ++
  "  --help                  Show this message and exit.\n"

/-- The form of `eval`. -/
def evalForm : Form where
  name := "cellcalc eval"
  pattern := "[OPTIONS] FORMULA"
  switches := sceneSwitches ++ [.help]
  explanation := "  Evaluate FORMULA and print the result.\n\n" ++ sceneExplanation

/-- The form of `tokens`. -/
def tokensForm : Form where
  name := "cellcalc tokens"
  pattern := "[OPTIONS] FORMULA"
  switches := [⟨"--json", false⟩, .help]
  explanation :=
    "  Print the token stream for FORMULA.\n\n" ++
    "Options:\n" ++
    "  --json  Output as JSON.\n" ++
    "  --help  Show this message and exit.\n"

/-- The form of `tree`. -/
def treeForm : Form where
  name := "cellcalc tree"
  pattern := "[OPTIONS] FORMULA"
  switches := sceneSwitches ++ [.help]
  explanation :=
    "  Print FORMULA fully parenthesised, with cell references resolved.\n\n" ++ sceneExplanation

/-- The form of `events`. -/
def eventsForm : Form where
  name := "cellcalc events"
  pattern := "[OPTIONS]"
  switches :=
    [⟨"--config-dir", true⟩, ⟨"--level", true⟩, ⟨"--type", true⟩, ⟨"--limit", true⟩, .help]
  explanation :=
    "  Show the structured event log.\n\n" ++
    "Options:\n" ++
    "  --config-dir DIRECTORY        Directory containing cellcalc.yaml.\n" ++
    "  --level [info|warning|error]\n" ++
    "  --type TEXT                   Filter by event type.\n" ++
    "  --limit INTEGER               Maximum events to show.\n" ++
    "  --help                        Show this message and exit.\n"

/-! ### Values of options -/

/-- Why the words of a command line ask for no command. -/
inductive Misread
  | misused (m : Misuse)
  /-- A name among them cannot be looked up. -/
  | files (f : Files.Fault)

/-- The flaw that there is in a part of a command line, if there is one, as long as its names
of files can be looked up. -/
abbrev Flawed : Type := Except Files.Fault (Option Flaw)

/-- The first flaw among several parts that are looked at one after the other. -/
def Flawed.first : List Flawed → Flawed
  | [] => .ok none
  | .ok none :: r => first r
  | found :: _ => found

/-- The flaw of a directory that is a file. -/
def directoryFlaw (files : Files) (name value : String) : Flawed :=
  (files.kindAt? value).map fun
    | some .file => some (.unsuitable name ("Directory " ++ quoted value ++ " is a file."))
    | _ => none

/-- The flaw of a file that is not there or is a directory. -/
def fileFlaw (files : Files) (name value : String) : Flawed :=
  (files.kindAt? value).map fun
    | none => some (.unsuitable name ("File " ++ quoted value ++ " does not exist."))
    | some .directory =>
        some (.unsuitable name ("File " ++ quoted value ++ " is a directory."))
    | some .file => none

/-- The names of the levels. -/
def levelNames : List String := [Event.Level.info, .warning, .error].map Event.Level.name

/-- The flaw of a name that is no level. -/
def levelFlaw? (name value : String) : Option Flaw :=
  if levelNames.contains value then none
  else some (.unsuitable name
    (quoted value ++ " is not one of " ++ ", ".intercalate (levelNames.map quoted) ++ "."))

/-- The flaw of a text that is no integer. -/
def integerFlaw? (name value : String) : Option Flaw :=
  match readNumeral 10 value with
  | .ok _ => none
  | .error _ => some (.unsuitable name (quoted value ++ " is not a valid integer."))

/-- The flaw of the value of an option. -/
def valueFlaw (files : Files) (name value : String) : Flawed :=
  if name = "--grid" then fileFlaw files name value
  else if name = "--config-dir" then directoryFlaw files name value
  else if name = "--level" then .ok (levelFlaw? name value)
  else if name = "--limit" then .ok (integerFlaw? name value)
  else .ok none

/-! ### Reading -/

/-- The flaw of the word that a command takes, which may be left out if that is allowed. A
word that may be left out names a directory. -/
def wordFlaw (files : Files) (wordName : Option String) (mayMiss : Bool) :
    List String → Flawed
  | [] => .ok (wordName.bind fun name => if mayMiss then none else some (.argumentMissing name))
  | word :: _ =>
      match wordName with
      | some name => if mayMiss then directoryFlaw files ("[" ++ name ++ "]") word else .ok none
      | none => .ok none

/-- The flaw of words beyond those that a command takes. -/
def restFlaw? (wordName : Option String) (words : List String) : Option Flaw :=
  match words.drop (if wordName.isSome then 1 else 0) with
  | [] => none
  | left => some (.wordsLeft left)

/-- The flaw of what is given for a command. -/
def givenFlaw (files : Files) (wordName : Option String) (mayMiss : Bool) (g : Given) : Flawed :=
  Flawed.first ((g.options.map fun (name, value) => valueFlaw files name value) ++
    [wordFlaw files wordName mayMiss g.words, .ok (restFlaw? wordName g.words)])

/-- The scene that options describe. -/
def sceneOf (g : Given) : Scene :=
  ⟨g.value? "--grid", g.value? "--select", (g.value? "--config-dir").getD "."⟩

/-- The choice that options describe. -/
def choiceOf (g : Given) : Choice where
  level := g.value? "--level"
  kind := g.value? "--type"
  limit := match g.value? "--limit" with
    | none => 100
    | some value => match readNumeral 10 value with
        | .ok n => n
        | .error _ => 100

/-- The word of a command that is given, or the one that stands for it. -/
def wordOr (other : String) (g : Given) : String := g.words.headD other

/-- A command as it is called: its form, the name of the word that it takes with whether that
may be left out, and the command that options and words make up. -/
structure Entry where
  form : Form
  wordName : Option String
  mayMiss : Bool
  make : Given → Command

/-- The commands by their names. -/
def entries : List (String × Entry) :=
  [("eval", ⟨evalForm, some "FORMULA", false, fun g => .eval (wordOr "" g) (sceneOf g)⟩),
    ("events", ⟨eventsForm, none, false, fun g =>
      .events ((g.value? "--config-dir").getD ".") (choiceOf g)⟩),
    ("init", ⟨initForm, some "DIRECTORY", true, fun g => .init (wordOr "." g)⟩),
    ("tokens", ⟨tokensForm, some "FORMULA", false, fun g =>
      .tokens (wordOr "" g) (g.value? "--json").isSome⟩),
    ("tree", ⟨treeForm, some "FORMULA", false, fun g => .tree (wordOr "" g) (sceneOf g)⟩)]

/-- The command that the words behind its name ask for. -/
def readEntry (files : Files) (e : Entry) (words : List String) : Except Misread Command :=
  match e.form.scan true words with
  | .error flaw => .error (.misused ⟨e.form, flaw⟩)
  | .ok g =>
      if (g.value? "--help").isSome then .ok (.help e.form)
      else match givenFlaw files e.wordName e.mayMiss g with
        | .ok (some flaw) => .error (.misused ⟨e.form, flaw⟩)
        | .ok none => .ok (e.make g)
        | .error f => .error (.files f)

/-- The command that an option of the whole program asks for. -/
def ofMainOptions? (g : Given) : Option Command :=
  g.options.head?.map fun (name, _) => if name = "--version" then .version else .help mainForm

/-- A command line that does not fit the form of the whole program. -/
def unfit {α : Type} (flaw : Flaw) : Except Misread α := .error (.misused ⟨mainForm, flaw⟩)

/-- The flaw of a name that is no command. -/
def unknownName (name : String) : Flaw :=
  .commandUnknown name (nearest name (entries.map (·.1)))

/-- The **command that the words of a command line ask for**. A name of a command that looks
like an option, which can stand behind two hyphens, is read as an option after all. -/
def read (files : Files) (words : List String) : Except Misread Command :=
  if words.isEmpty then unfit .nothing
  else match mainForm.scan false words with
    | .error flaw => unfit flaw
    | .ok g =>
        match ofMainOptions? g, g.words with
        | some c, _ => .ok c
        | none, [] => unfit .commandMissing
        | none, name :: r =>
            match entries.lookup name with
            | some e => readEntry files e r
            | none =>
                match mainForm.scan false (name :: r) with
                | .error flaw => unfit flaw
                | .ok g =>
                    match ofMainOptions? g with
                    | some c => .ok c
                    | none => unfit (unknownName name)

end Command

end SheetFormula
