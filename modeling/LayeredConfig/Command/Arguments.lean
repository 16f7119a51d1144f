/-!
# Arguments of a command line

An argument that begins with a hyphen names an option, two hyphens alone end the options. The value
of an option stands in the next argument, whatever it is, or after an equals sign.
-/

namespace LayeredConfig.Command

/-- Why a command line is refused before anything is run. -/
inductive UsageError where
  | noSuchOption (name : String)
  | valueMissing (option : String)
  | valueUnexpected (option : String)
  | noSuchCommand (name : String)
  | commandMissing
  | argumentMissing (name : String)
  | argumentsUnexpected (arguments : List String)
  | noSuchChoice (option value : String)
  | notInteger (option value : String)
  | isDirectory (path : String)
  | notDirectory (path : String)
  deriving DecidableEq, Repr

def UsageError.message : UsageError → String
  | .noSuchOption name => "No such option: " ++ name
  | .valueMissing option => "Option " ++ option ++ " requires an argument."
  | .valueUnexpected option => "Option " ++ option ++ " does not take a value."
  | .noSuchCommand name => "No such command " ++ name ++ "."
  | .commandMissing => "Missing command."
  | .argumentMissing name => "Missing argument " ++ name ++ "."
  | .argumentsUnexpected arguments =>
    "Got unexpected extra arguments: " ++ " ".intercalate arguments
  | .noSuchChoice option value => "Invalid value for " ++ option ++ ": " ++ value
  | .notInteger option value =>
    "Invalid value for " ++ option ++ ": " ++ value ++ " is not a valid integer."
  | .isDirectory path => "Invalid value for --file: File " ++ path ++ " is a directory."
  | .notDirectory path =>
    "Invalid value for --dotenv-dir: Directory " ++ path ++ " does not exist."

/-- An option that a command knows. -/
structure KnownOption where
  name : String
  takesValue : Bool
  deriving DecidableEq, Repr

/-- An option as it is given; flags have an empty value. -/
structure Given where
  name : String
  value : String
  deriving DecidableEq, Repr

/-- The name under which both ways to ask for help are recorded. -/
def helpName : String := "--help"

/-- The name of a long option and the value after its equals sign. -/
def splitLong (cs : List Char) : String × Option String :=
  let name := cs.takeWhile (· ≠ '=')
  match cs.dropWhile (· ≠ '=') with
  | [] => (String.ofList name, none)
  | _ :: value => (String.ofList name, some (String.ofList value))

/-- The arguments after an option, with the option in front of those given. -/
def prepend (g : Given) (rest : List Given × List String) : List Given × List String :=
  (g :: rest.1, rest.2)

/-- The options that are given, and the other arguments. Unless options may stand between them,
the first of these ends the options. -/
def scan (known : List KnownOption) (mixed : Bool) :
    List String → Except UsageError (List Given × List String)
  | [] => .ok ([], [])
  | arg :: rest =>
    match arg.toList with
    | '-' :: '-' :: [] => .ok ([], rest)
    | '-' :: '-' :: _ =>
      let (name, attached) := splitLong arg.toList
      match known.find? (·.name = name), attached with
      | none, _ => .error (.noSuchOption name)
      | some o, attached =>
        if o.takesValue then
          match attached, rest with
          | some value, rest => (scan known mixed rest).map (prepend ⟨name, value⟩)
          | none, value :: rest => (scan known mixed rest).map (prepend ⟨name, value⟩)
          | none, [] => .error (.valueMissing name)
        else if attached.isSome then .error (.valueUnexpected name)
        else (scan known mixed rest).map (prepend ⟨name, ""⟩)
    | '-' :: c :: letters =>
      match (c :: letters).find? (· ≠ 'h') with
      | some other => .error (.noSuchOption (String.ofList ['-', other]))
      | none => (scan known mixed rest).map (prepend ⟨helpName, ""⟩)
    | _ =>
      if mixed then (scan known mixed rest).map fun (given, others) => (given, arg :: others)
      else .ok ([], arg :: rest)

/-- The value that an option is given last. -/
def last? (given : List Given) (name : String) : Option String :=
  (given.reverse.find? (·.name = name)).map (·.value)

/-- All values that an option is given. -/
def all (given : List Given) (name : String) : List String :=
  (given.filter (·.name = name)).map (·.value)

/-- Which of two opposite flags is given last. -/
def switch (given : List Given) (on off : String) (default : Bool) : Bool :=
  match given.reverse.find? fun g => g.name = on || g.name = off with
  | some g => g.name = on
  | none => default

end LayeredConfig.Command
