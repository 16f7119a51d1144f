import LayeredConfig.Command.Arguments
import LayeredConfig.Layering

/-!
# Requests — what a command line asks for

The options that select layers are common to all commands that look keys up. A request is read
without a look at any file; whether its paths are of the right kind is checked against a tree of
files afterwards.
-/

namespace LayeredConfig.Command

inductive Request where
  | help
  | version
  | info
  | get (key : String) (kind : Kind) (default : Option String) (isRequired : Bool) (l : Layering)
  | resolve (text : String) (strict : Bool) (l : Layering)
  | validate (keys : List String) (l : Layering)
  | sources (indent : Option Int) (l : Layering)
  | profiles (expressions active : List String) (l : Layering)

/-- The layers that a request looks into. -/
def Request.layering? : Request → Option Layering
  | .help | .version | .info => none
  | .get _ _ _ _ l | .resolve _ _ l | .validate _ l | .sources _ l | .profiles _ _ l => some l

/-! ## Options -/

def flags (names : List String) : List KnownOption := names.map (⟨·, false⟩)

def valued (names : List String) : List KnownOption := names.map (⟨·, true⟩)

/-- The options before a command. -/
def rootOptions : List KnownOption :=
  flags [helpName, "--version", "--traceback", "--no-traceback"]

/-- The options that select layers. -/
def layerOptions : List KnownOption :=
  valued ["--file", "--dotenv-dir", "--env-prefix"] ++ flags [helpName, "--env", "--no-env"]

/-- The layers that options select. -/
def layeringOf (given : List Given) : Layering where
  files := all given "--file"
  environ := []
  variableMark := last? given "--env-prefix"
  withVariables := switch given "--env" "--no-env" true
  dotenvStart := last? given "--dotenv-dir"
  withDotenv := false

/-- The kinds that a value can be converted to. -/
def kindChoices : List (String × Kind) :=
  [("str", .str), ("int", .int), ("float", .float), ("bool", .bool), ("decimal", .decimal),
    ("path", .path), ("list", .list)]

/-- The kind that is chosen; letter case does not matter. -/
def kindOf (given : List Given) : Except UsageError Kind :=
  let choice := (last? given "--type").getD "str"
  match kindChoices.find? fun (word, _) => Text.spells word choice with
  | some (_, kind) => .ok kind
  | none => .error (.noSuchChoice "--type" choice)

/-- The indent that is chosen. -/
def indentOf (given : List Given) : Except UsageError (Option Int) :=
  match last? given "--indent" with
  | none => .ok none
  | some text =>
    match Numeral.read 10 text.toList with
    | .ok n => .ok (some n)
    | .error _ => .error (.notInteger "--indent" text)

/-! ## Commands -/

/-- A single argument. -/
def single (name : String) : List String → Except UsageError String
  | [] => .error (.argumentMissing name)
  | [arg] => .ok arg
  | _ :: extra => .error (.argumentsUnexpected extra)

/-- One or more arguments. -/
def several (name : String) (arguments : List String) : Except UsageError (List String) :=
  if arguments.isEmpty then .error (.argumentMissing name) else .ok arguments

/-- The request of a command, read from its options and arguments unless help is asked for. -/
def withOptions (own : List KnownOption) (arguments : List String)
    (read : List Given → List String → Except UsageError Request) :
    Except UsageError Request := do
  let (given, plain) ← scan own true arguments
  if given.any (·.name = helpName) then pure .help else read given plain

/-- The request of a command with its arguments. -/
def ofCommand (name : String) (arguments : List String) : Except UsageError Request :=
  let withLayers (own : List KnownOption) := withOptions (own ++ layerOptions) arguments
  match name with
  | "info" => withOptions (flags [helpName]) arguments fun _ plain =>
    if plain.isEmpty then .ok .info else .error (.argumentsUnexpected plain)
  | "get" => withLayers (valued ["--type", "--default"] ++ flags ["--required"])
    fun given plain => do
      let key ← single "KEY" plain
      let kind ← kindOf given
      let isRequired := given.any (·.name = "--required")
      pure (.get key kind (last? given "--default") isRequired (layeringOf given))
  | "resolve" => withLayers (flags ["--strict", "--lenient"]) fun given plain => do
    let text ← single "TEXT" plain
    pure (.resolve text (switch given "--strict" "--lenient" false) (layeringOf given))
  | "validate" => withLayers [] fun given plain => do
    let keys ← several "KEYS..." plain
    pure (.validate keys (layeringOf given))
  | "sources" => withLayers (valued ["--indent"]) fun given plain => do
    let indent ← indentOf given
    if plain.isEmpty then pure (.sources indent (layeringOf given))
    else .error (.argumentsUnexpected plain)
  | "profiles" => withLayers (valued ["--active"]) fun given plain => do
    let expressions ← several "EXPRESSIONS..." plain
    pure (.profiles expressions (all given "--active") (layeringOf given))
  | _ => .error (.noSuchCommand name)

def commandNames : List String :=
  ["info", "get", "resolve", "validate", "sources", "profiles"]

/-- The first of the options before a command that asks for something by itself. -/
def ofRootOptions? (given : List Given) : Option Request :=
  (given.find? fun g => g.name = helpName || g.name = "--version").map fun g =>
    if g.name = helpName then .help else .version

/-- The request of a command line. Where no command has the name that is given, options in its
place are read, though the options before it were over. -/
def Request.ofArguments (arguments : List String) : Except UsageError Request := do
  let (given, rest) ← scan rootOptions false arguments
  match ofRootOptions? given, rest with
  | some r, _ => pure r
  | none, [] => .error .commandMissing
  | none, name :: others =>
    if commandNames.contains name then ofCommand name others
    else do
      let (again, _) ← scan rootOptions false rest
      match ofRootOptions? again with
      | some r => pure r
      | none => .error (.noSuchCommand name)

/-! ## Paths -/

/-- Whether a text names a directory; the empty text names nothing. -/
def namesDirectory (t : FileTree) (path : String) : Bool :=
  path ≠ "" && t.isDirectory (Path.ofString path)

/-- Files must be no directories, and a search must start in one. -/
def checkPaths (t : FileTree) (l : Layering) : Except UsageError Unit :=
  match l.files.find? (namesDirectory t), l.dotenvStart.filter (!namesDirectory t ·) with
  | some path, _ => .error (.isDirectory path)
  | none, some path => .error (.notDirectory path)
  | none, none => .ok ()

/-- The paths that a request looks at: its files, and the places where a search may end. -/
def Request.paths (r : Request) (root : Path) : List Path :=
  match r.layering? with
  | none => []
  | some l =>
    let searched (start : String) :=
      Path.ofString start :: Dotenv.candidates ⟨root, [], []⟩ (some start) []
    l.files.map Path.ofString ++ (l.dotenvStart.map searched).getD []

/-- The layers with paths in normal form and with the variables of the process. -/
def settled (l : Layering) (environ : List (String × Value)) : Layering :=
  let normal (path : String) := (Path.ofString path).text
  { l with files := l.files.map normal, dotenvStart := l.dotenvStart.map normal, environ }

end LayeredConfig.Command
