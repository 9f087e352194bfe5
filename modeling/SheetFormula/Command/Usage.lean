import SheetFormula.Text.Likeness
import SheetFormula.Text.Quoted

/-!
# Usage of Commands

The form of a command: its name, its options and what it takes beside them. `Form.scan`
takes the options out of the words of a command line. What does not fit the form is a
`Misuse`, whose text shows the form and says what is wrong.
-/

namespace SheetFormula.Command

open Text

/-- An **option** of a command, which stands alone or takes a value. -/
structure Switch where
  name : String
  takesValue : Bool
  deriving DecidableEq, Repr

/-- The option that every command has. -/
def Switch.help : Switch := ⟨"--help", false⟩

/-- The **form** of a command. -/
structure Form where
  /-- The words that call the command. -/
  name : String
  /-- What may follow these words. -/
  pattern : String
  switches : List Switch
  /-- What the command does, and what its options are. -/
  explanation : String

/-- The line that shows a form. -/
def Form.usage (f : Form) : String := "Usage: " ++ f.name ++ " " ++ f.pattern ++ "\n"

/-- The help on a command. -/
def Form.help (f : Form) : String := f.usage ++ "\n" ++ f.explanation

/-- What does not fit the form of a command. -/
inductive Flaw
  /-- An option that is not known, and the known ones that are like it. -/
  | unknownSwitch (name : String) (near : List String)
  | valueMissing (name : String)
  | valueUnwanted (name : String)
  | argumentMissing (name : String)
  /-- An option or argument with a value that does not suit it. -/
  | unsuitable (name : String) (why : String)
  | wordsLeft (words : List String)
  | commandMissing
  /-- A command that is not known, and the known ones that are like it. -/
  | commandUnknown (name : String) (near : List String)
  /-- Nothing at all where a command has to stand. -/
  | nothing
  deriving DecidableEq, Repr

/-- The sentence that asks for the words that may have been meant, in their order. -/
def question : List String → String
  | [] => ""
  | [one] => " Did you mean " ++ quoted one ++ "?"
  | several => " (Did you mean one of: " ++
      ", ".intercalate ((several.mergeSort fun a b => !(b < a)).map quoted) ++ "?)"

/-- What is wrong, in a sentence. -/
def Flaw.message : Flaw → String
  | .unknownSwitch name near => "No such option " ++ quoted name ++ "." ++ question near
  | .valueMissing name => "Option " ++ quoted name ++ " requires an argument."
  | .valueUnwanted name => "Option " ++ quoted name ++ " does not take a value."
  | .argumentMissing name => "Missing argument '" ++ name ++ "'."
  | .unsuitable name why => "Invalid value for '" ++ name ++ "': " ++ why
  | .wordsLeft words =>
      "Got unexpected extra argument" ++ (if words.length = 1 then "" else "s") ++ " (" ++
        " ".intercalate words ++ ")"
  | .commandMissing => "Missing command."
  | .commandUnknown name near => "No such command " ++ quoted name ++ "." ++ question near
  | .nothing => ""

/-- Whether the flaw is told without the form of the command. These are the flaws of an
option and its value that show before the value is looked at. -/
def Flaw.isBare : Flaw → Bool
  | .valueMissing _ | .valueUnwanted _ => true
  | _ => false

/-- A command line that does not fit the form of a command. -/
structure Misuse where
  form : Form
  flaw : Flaw

/-- The text that tells of a misuse. -/
def Misuse.text (m : Misuse) : String :=
  match m.flaw with
  | .nothing => m.form.help
  | flaw =>
      (if flaw.isBare then ""
        else m.form.usage ++ "Try '" ++ m.form.name ++ " --help' for help.\n\n") ++
      "Error: " ++ flaw.message ++ "\n"

/-- The options that are given with their values in the order in which they are first given,
and the other words. -/
structure Given where
  options : List (String × String)
  words : List String

/-- The value of an option, if it is given. -/
def Given.value? (g : Given) (name : String) : Option String := g.options.lookup name

/-- Options with one more in front. If it is given again later it keeps the later value. -/
def addOption (name value : String) (options : List (String × String)) :
    List (String × String) :=
  (name, (options.lookup name).getD value) :: options.filter (·.1 != name)

/-- What is given with one more option in front. -/
def Given.add (name value : String) (g : Given) : Given :=
  { g with options := addOption name value g.options }

/-- The name of an option in a word, and the value that is given with it behind an equals
sign. -/
def splitWord (word : String) : String × Option String :=
  let cs := word.toList
  match cs.dropWhile (· ≠ '=') with
  | [] => (word, none)
  | _ :: value => (String.ofList (cs.takeWhile (· ≠ '=')), some (String.ofList value))

/-- Whether the word is an option: it begins with a hyphen and goes on. -/
def isOption (word : String) : Bool := word.startsWith "-" && word != "-"

namespace Form

/-- The option with the name. -/
def switch? (f : Form) (name : String) : Option Switch := f.switches.find? (·.name == name)

/-- The flaw of a word that is none of the options. -/
def unknown (f : Form) (word name : String) : Flaw :=
  if word.startsWith "--" then .unknownSwitch name (nearest name (f.switches.map (·.name)))
  else .unknownSwitch (String.ofList (word.toList.take 2)) []

/-- Takes the options out of words. Two hyphens end the options. If options may not stand
behind other words the first of these ends them too. -/
def scan (f : Form) (mixed : Bool) : List String → Except Flaw Given
  | [] => .ok ⟨[], []⟩
  | word :: r =>
      if word = "--" then .ok ⟨[], r⟩
      else if isOption word then
        let (name, value?) := splitWord word
        match f.switch? name, value?, r with
        | none, _, _ => .error (f.unknown word name)
        | some ⟨_, true⟩, some value, r => (f.scan mixed r).map (Given.add name value)
        | some ⟨_, true⟩, none, value :: r' => (f.scan mixed r').map (Given.add name value)
        | some ⟨_, true⟩, none, [] => .error (.valueMissing name)
        | some ⟨_, false⟩, some _, _ => .error (.valueUnwanted name)
        | some ⟨_, false⟩, none, r => (f.scan mixed r).map (Given.add name "")
      else if mixed then (f.scan mixed r).map fun g => { g with words := word :: g.words }
      else .ok ⟨[], word :: r⟩

end Form

end SheetFormula.Command
