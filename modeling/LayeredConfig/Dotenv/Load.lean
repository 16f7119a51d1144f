import LayeredConfig.Action
import LayeredConfig.Dotenv.Line
import LayeredConfig.FileTree
import LayeredConfig.Source
import LayeredConfig.Text.Utf8

/-!
# Loading `.env` files

The file is looked for in a directory and in those above it, then among further paths; a path that
the system refuses ends the search. The first file that is there is read from the top, and the first
line that is no setting ends the reading.
-/

namespace LayeredConfig.Dotenv

/-- The name of the layer of a `.env` file. -/
def layerName : String := "dotenv"

/-- The directory where a search starts: the working directory unless another is named. -/
def startOf (t : FileTree) (start : Option String) : Path :=
  match start with
  | none | some "" => t.root
  | some s => Path.ofString s

/-- The paths that are tried, in this order. -/
def candidates (t : FileTree) (start : Option String) (extras : List String) : List Path :=
  let base := startOf t start
  ((base :: base.parents).map (·.join ⟨0, [".env"]⟩)) ++ extras.map Path.ofString

/-- The first of some paths that leads to a file. -/
def firstFile (t : FileTree) (paths : List Path) : Except Error (Option Path) :=
  match paths.find? fun p => t.refuses p || t.isFile p with
  | some p => if t.refuses p then .error (.pathTooLong p.text) else .ok (some p)
  | none => .ok none

/-- The path of the file that a search finds. -/
def find (t : FileTree) (start : Option String) (extras : List String) :
    Except Error (Option Path) :=
  firstFile t (candidates t start extras)

/-- Entries of settings, the last value of a key at its first place. -/
abbrev Settings : Type := List (String × Value)

/-- Reads the lines of a file into settings; `number` counts the lines before. -/
def readLines (path : String) (number : Nat) (settings : Settings) :
    List (List Char) → List Event × Except Error Settings
  | [] => ([], .ok settings)
  | line :: rest =>
    match parseLine line with
    | .ok none => readLines path (number + 1) settings rest
    | .ok (some (key, value)) =>
      let entry := Value.text (String.ofList value)
      readLines path (number + 1) (Store.putEntry settings (String.ofList key) entry) rest
    | .error e =>
      ([.dotenvInvalidLine path (number + 1)],
        .error (match e with
          | .noEqualsSign => .malformedLine (number + 1) path
          | .noName => .missingName (number + 1) path))

/-- How many bytes beyond the first are decoded at a time. -/
def pieceRest : Nat := 8191

/-- The lines that are finished when no more can be decoded. A line feed might have followed a
carriage return at the end, so that one ends no line. -/
def finishedLines (cs : List Char) : List (List Char) :=
  (lines (if cs.getLast? = some '\r' then cs.dropLast else cs)).1

/-- The settings of a file. Lines are read as they are decoded, so a line that is no setting counts
before bytes further on that are no text. -/
def parse (path : String) (bytes : List UInt8) : List Event × Except Error Settings :=
  let (cs, complete) := Utf8.decodePieces pieceRest [] bytes
  if complete then
    let (finished, last) := lines cs
    readLines path 0 [] (finished ++ [last])
  else
    match readLines path 0 [] (finishedLines cs) with
    | (events, .ok _) => (events, .error .undecodable)
    | failed => failed

/-- The keys of settings in ascending order. -/
def sortedKeys (settings : Settings) : List String :=
  (settings.map (·.1)).mergeSort fun a b => !(b < a)

/-- The layer of the file at a path. -/
def read {σ : Type} (t : FileTree) (path : Path) : Action σ Source := do
  let (events, result) := parse path.text ((t.read? path).getD [])
  Action.emit events
  let settings ← Action.ofExcept result
  Action.emit [.dotenvLoaded path.text (sortedKeys settings)]
  Action.ofExcept (Source.make (.text layerName) (some (.mapping settings)))

/-- The layer of the first file that is found, with the path of the file. -/
def load {σ : Type} (t : FileTree) (start : Option String) (extras : List String) :
    Action σ (Option (Path × Source)) := do
  let found ← Action.ofExcept (find t start extras)
  match found with
  | none => do
    Action.emit [.dotenvNotFound]
    pure none
  | some path => do
    let source ← read t path
    pure (some (path, source))

end LayeredConfig.Dotenv
