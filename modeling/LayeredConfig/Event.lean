import LayeredConfig.Error

/-!
# Events — what operations report

Each event has a level, a message and named fields. Most events name a layer and a path first. A
record is an event as it is logged: its fields follow the trace identifier that is bound at the
time.
-/

namespace LayeredConfig

/-- How serious an event is. -/
inductive Severity where
  | debug
  | info
  | warning
  | error
  deriving DecidableEq, Repr, Inhabited

namespace Severity

def rank : Severity → Nat
  | .debug => 10
  | .info => 20
  | .warning => 30
  | .error => 40

def name : Severity → String
  | .debug => "DEBUG"
  | .info => "INFO"
  | .warning => "WARNING"
  | .error => "ERROR"

end Severity

inductive Event where
  | layerAdded (name : String) (position : Nat) (relativeTo : Option String)
  | layerRemoved (name : String) (position : Nat)
  | layerReplaced (name replacement : String)
  | keyFound (layer key kind : String)
  | keyNotFound (key : String)
  | placeholderResolved (key : String)
  | profilesActivated (names : List String)
  | variablesLoaded (layer : String) (count : Nat)
  | dotenvLoaded (path : String) (keys : List String)
  | dotenvNotFound
  | dotenvInvalidLine (path : String) (line : Nat)
  | fileRead (path : String) (size : Nat)
  | fileLoaded (path : String) (format : Format) (count : Nat)
  | fileInvalid (path : String) (format : Format) (reason : String)
  | layerFailed (layer : String) (path : String) (error : String)
  | layerLoaded (layer : String) (path : Option String) (count : Nat)
  | environmentBuilt (layers : List String)
  | custom (severity : Severity) (message : String) (fields : List (String × Value))
  deriving Repr

namespace Event

/-- A list of texts as a value. -/
def textList (names : List String) : Value :=
  .list (names.map .text)

/-- A text, if there is one. -/
def optionalText : Option String → Value
  | some s => .text s
  | none => .null

/-- A number as a value. -/
def count (n : Nat) : Value := .int n

/-- The fields that most events begin with. -/
def located (layer : String) (path : Option String) (fields : List (String × Value)) :
    List (String × Value) :=
  ("layer", .text layer) :: ("path", optionalText path) :: fields

def severity : Event → Severity
  | .environmentBuilt _ => .info
  | .dotenvInvalidLine .. | .fileInvalid .. | .layerFailed .. => .error
  | .custom severity .. => severity
  | _ => .debug

def message : Event → String
  | .layerAdded .. => "source_added"
  | .layerRemoved .. => "source_removed"
  | .layerReplaced .. => "source_replaced"
  | .keyFound .. => "key_found"
  | .keyNotFound _ => "key_not_found"
  | .placeholderResolved _ => "placeholder_resolved"
  | .profilesActivated _ => "profiles_activated"
  | .variablesLoaded .. => "env_variables_loaded"
  | .dotenvLoaded .. => "dotenv_loaded"
  | .dotenvNotFound => "dotenv_not_found"
  | .dotenvInvalidLine .. => "dotenv_invalid_line"
  | .fileRead .. => "config_file_read"
  | .fileLoaded .. => "config_file_loaded"
  | .fileInvalid .. => "config_file_invalid"
  | .layerFailed .. => "layer_error"
  | .layerLoaded .. => "layer_loaded"
  | .environmentBuilt _ => "environment_built"
  | .custom _ message _ => message

def fields : Event → List (String × Value)
  | .layerAdded name position relativeTo =>
    located name none
      (("position", count position) ::
        (relativeTo.map fun other => ("relative_to", Value.text other)).toList)
  | .layerRemoved name position => located name none [("position", count position)]
  | .layerReplaced name replacement => located name none [("replacement", .text replacement)]
  | .keyFound layer key kind => located layer none [("key", .text key), ("value_type", .text kind)]
  | .keyNotFound key => located "chain" none [("key", .text key)]
  | .placeholderResolved key => located "placeholder" none [("key", .text key)]
  | .profilesActivated names => located "profiles" none [("profiles", textList names)]
  | .variablesLoaded layer n => located layer none [("keys", count n)]
  | .dotenvLoaded path keys => located "dotenv" path [("keys", textList keys)]
  | .dotenvNotFound => located "dotenv" none []
  | .dotenvInvalidLine path line => located "dotenv" path [("line", count line)]
  | .fileRead path size => located "file" path [("size", count size)]
  | .fileLoaded path format n =>
    located "file" path [("format", .text format.name), ("keys", count n)]
  | .fileInvalid path format reason =>
    located "file" path [("format", .text format.name), ("error", .text reason)]
  | .layerFailed layer path error => located layer path [("error", .text error)]
  | .layerLoaded layer path n => located layer path [("keys", count n)]
  | .environmentBuilt layers => located "chain" none [("sources", textList layers)]
  | .custom _ _ fields => fields

end Event

/-- Fields with one more; a name that is there keeps its place and takes the value. -/
def putField (fields : List (String × Value)) (name : String) (value : Value) :
    List (String × Value) :=
  if fields.any (·.1 == name) then
    fields.map fun (n, v) => if n == name then (n, value) else (n, v)
  else fields ++ [(name, value)]

/-- Fields with all of some others. -/
def putFields (fields others : List (String × Value)) : List (String × Value) :=
  others.foldl (fun acc (name, value) => putField acc name value) fields

/-- The fields of an event about a layer, with further fields. -/
def Event.payload (layer : String) (path : Option String) (further : List (String × Value)) :
    List (String × Value) :=
  putFields (located layer path []) further

/-- An event as it is logged. -/
structure Record where
  severity : Severity
  message : String
  context : List (String × Value)
  deriving Repr

/-- The record of an event under a bound trace identifier. -/
def Event.record (traceId : Option String) (e : Event) : Record where
  severity := e.severity
  message := e.message
  context := putFields [("trace_id", Event.optionalText traceId)] e.fields

end LayeredConfig
