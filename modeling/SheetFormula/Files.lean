/-!
# Files

A tree of directories and text files as a value. Every place in it has a path from the root,
and a working directory stands for the beginning of relative names. A name is followed part
by part, and each part before the last one must be a directory. A name holds no NUL
character, and there are limits to its length.

## Main statements

* `Files.content?_put`, `Files.content?_put_of_ne`: writing a file changes that file alone.
-/

namespace SheetFormula

/-- A **path** from the root: the names on the way. -/
abbrev Path : Type := List String

/-- A **name** of a file or directory: the names on the way, where two points go back to the
directory above and a slash goes to the root. -/
abbrev FileName : Type := List String

/-- The name that a text writes. A slash at the beginning goes to the root. Empty parts and
single points count for nothing. -/
def FileName.ofText (s : String) : FileName :=
  let parts := (s.splitOn "/").filter fun part => !(part.isEmpty || part == ".")
  if s.startsWith "/" then "/" :: parts else parts

/-- The text of a name: its parts between slashes, and a point when there are none. -/
def FileName.text : FileName → String
  | [] => "."
  | "/" :: parts => "/" ++ "/".intercalate parts
  | parts => "/".intercalate parts

/-- Why a file or directory cannot be used. -/
inductive Files.Fault
  /-- There is no such file or directory. -/
  | missing
  /-- A file stands where a directory is needed on the way. -/
  | notDirectory
  /-- A directory stands where a file is needed. -/
  | isDirectory
  /-- A file stands where a directory is to be made. -/
  | exists
  /-- The name holds a NUL character. -/
  | nulCharacter
  /-- The name, or a part of it, is longer than names may be. -/
  | tooLong
  deriving DecidableEq, Repr

/-- The **message** of a fault, as far as it has one of its own. -/
def Files.Fault.message? : Files.Fault → Option String
  | .nulCharacter => some "embedded null byte"
  | _ => none

/-- What no file or directory can be named, wherever it is looked for: a name with a NUL
character, or one of 4096 bytes or more. -/
def FileName.fault? (name : FileName) : Option Files.Fault :=
  if name.any (·.contains '\x00') then some .nulCharacter
  else if 4096 ≤ name.text.utf8ByteSize then some .tooLong
  else none

/-- Whether a part of a name has more than 255 bytes, which is too much for a directory. -/
def FileName.isLongPart (part : String) : Bool := 255 < part.utf8ByteSize

/-- A **tree of files**: the texts of the files, the directories beside the root, and the
working directory. -/
structure Files where
  texts : List (Path × String)
  directories : List Path
  here : Path

namespace Files

/-- The text of the file at a path. -/
def content? (fs : Files) (p : Path) : Option String :=
  (fs.texts.find? (·.1 == p)).map (·.2)

/-- Whether there is a file at the path. -/
def isFile (fs : Files) (p : Path) : Bool := (fs.content? p).isSome

/-- Whether there is a directory at the path. -/
def isDirectory (fs : Files) (p : Path) : Bool := p.isEmpty || fs.directories.contains p

/-- Texts of files with one of them set. -/
def setText (p : Path) (text : String) : List (Path × String) → List (Path × String)
  | [] => [(p, text)]
  | (q, t) :: r => if q = p then (q, text) :: r else (q, t) :: setText p text r

/-- The tree with a text at a path. -/
def put (fs : Files) (p : Path) (text : String) : Files :=
  { fs with texts := setText p text fs.texts }

/-- The text that was set is found at its path. -/
theorem find?_setText (p : Path) (text : String) (texts : List (Path × String)) :
    (setText p text texts).find? (·.1 == p) = some (p, text) := by
  induction texts with
  | nil => simp [setText]
  | cons f r ih =>
      obtain ⟨q, t⟩ := f
      by_cases h : q = p <;> simp [setText, h, ih]

/-- Setting a text changes none at another path. -/
theorem find?_setText_of_ne {p q : Path} (h : q ≠ p) (text : String)
    (texts : List (Path × String)) :
    (setText p text texts).find? (·.1 == q) = texts.find? (·.1 == q) := by
  induction texts with
  | nil => simp [setText, Ne.symm h]
  | cons f r ih =>
      obtain ⟨p', t⟩ := f
      by_cases hp : p' = p
      · subst hp; simp [setText, Ne.symm h]
      · by_cases hq : p' = q
        · subst hq; simp [setText, h]
        · simp [setText, hp, hq, ih]

/-- A file that was written holds the text. -/
theorem content?_put (fs : Files) (p : Path) (text : String) :
    (fs.put p text).content? p = some text := by
  simp [content?, put, find?_setText]

/-- Writing a file leaves the others alone. -/
theorem content?_put_of_ne (fs : Files) {p q : Path} (h : q ≠ p) (text : String) :
    (fs.put p text).content? q = fs.content? q := by
  simp [content?, put, find?_setText_of_ne h]

/-- The place that a part of a name leads to from a place. -/
def step (place : Path) (part : String) : Path :=
  if part = ".." then place.dropLast else if part = "/" then [] else place ++ [part]

/-- The path that a name leads to from a place, which must be a directory as long as there
are parts left. -/
def follow (fs : Files) : Path → FileName → Except Fault Path
  | place, [] => .ok place
  | place, part :: rest =>
      if part = "/" ∨ fs.isDirectory place then
        if FileName.isLongPart part then .error .tooLong
        else fs.follow (step place part) rest
      else if fs.isFile place then .error .notDirectory
      else .error .missing

/-- The path that a name leads to from the working directory. -/
def locate (fs : Files) (name : FileName) : Except Fault Path :=
  match name.fault? with
  | some f => .error f
  | none => fs.follow fs.here name

/-- Whether there is a file or directory with the name. Only a name that is too long is a
fault. -/
def exists? (fs : Files) (name : FileName) : Except Fault Bool :=
  match fs.locate name with
  | .ok p => .ok (fs.isFile p || fs.isDirectory p)
  | .error .tooLong => .error .tooLong
  | .error _ => .ok false

/-- What there can be at a place. -/
inductive Kind
  | file
  | directory
  deriving DecidableEq, Repr

/-- What there is at the place that a text names. A slash or a single point at the end of the
text asks for a directory. Only a NUL character is a fault. -/
def kindAt? (fs : Files) (text : String) : Except Fault (Option Kind) :=
  if text.isEmpty then .ok none
  else match fs.locate (FileName.ofText text) with
    | .error .nulCharacter => .error .nulCharacter
    | .error _ => .ok none
    | .ok p =>
        if fs.isDirectory p then .ok (some .directory)
        else if fs.isFile p && !(text.endsWith "/" || text.endsWith "/.") then .ok (some .file)
        else .ok none

/-- The text of the file with the name. -/
def read (fs : Files) (name : FileName) : Except Fault String := do
  let p ← fs.locate name
  match fs.content? p with
  | some text => .ok text
  | none => .error (if fs.isDirectory p then .isDirectory else .missing)

/-- The path at which a file with the name can be written: its directory is there. -/
def target (fs : Files) (name : FileName) : Except Fault Path := do
  let p ← fs.locate name
  if fs.isDirectory p then .error .isDirectory else .ok p

/-- The tree with a text as the file with the name. -/
def write (fs : Files) (name : FileName) (text : String) : Except Fault Files := do
  let p ← fs.target name
  .ok (fs.put p text)

/-- The tree with a text **added at the end** of the file with the name, which is made when
there is none. -/
def append (fs : Files) (name : FileName) (text : String) : Except Fault Files := do
  let p ← fs.target name
  .ok (fs.put p ((fs.content? p).getD "" ++ text))

/-- The tree with a directory at a path. -/
def addDirectory (fs : Files) (p : Path) : Files :=
  if fs.isDirectory p then fs else { fs with directories := fs.directories ++ [p] }

/-- The tree with the directories on the way of a name from a place, **as far as they can be made**,
and the fault that stops it. The flag says whether one of them was made already: only then is each
part of the name to be made on its own, so that a file is met where a directory is to be made. -/
def makeFrom (fs : Files) : Bool → Path → FileName → Files × Option Fault
  | _, _, [] => (fs, none)
  | begun, place, part :: rest =>
      let next := step place part
      if FileName.isLongPart part then (fs, some .tooLong)
      else if fs.isFile next then
        (fs, some (if begun || rest.isEmpty then .exists else .notDirectory))
      else (fs.addDirectory next).makeFrom (begun || !fs.isDirectory next) next rest

/-- The tree with the directory of the name and those on the way to it, as far as they can be made,
and the fault that stops it. -/
def make (fs : Files) (name : FileName) : Files × Option Fault :=
  match name.fault? with
  | some f => (fs, some f)
  | none => fs.makeFrom false fs.here name

/-- The tree **after a directory was to be made**, whether it could be or not: the directories on
the way that were made stay. -/
def afterMake (fs : Files) (name : FileName) : Files := (fs.make name).1

/-- The tree with the directory of the name and those on the way to it. -/
def makeDirectories (fs : Files) (name : FileName) : Except Fault Files :=
  match (fs.make name).2 with
  | some f => .error f
  | none => .ok (fs.afterMake name)

/-- The tree without the directory with the name and what is in it. -/
def removeDirectory (fs : Files) (name : FileName) : Except Fault Files := do
  let p ← fs.locate name
  if fs.isDirectory p then
    .ok { fs with
      texts := fs.texts.filter fun f => !p.isPrefixOf f.1
      directories := fs.directories.filter fun d => !p.isPrefixOf d }
  else .error (if fs.isFile p then .notDirectory else .missing)

/-- The files below the working directory, named from there. -/
def listed (fs : Files) : List (FileName × String) :=
  fs.texts.filterMap fun (p, text) =>
    if fs.here.isPrefixOf p then some (p.drop fs.here.length, text) else none

end Files

end SheetFormula
