import LayeredConfig.Action
import LayeredConfig.Document.Flatten
import LayeredConfig.Document.Json
import LayeredConfig.Document.Toml
import LayeredConfig.Document.Parser
import LayeredConfig.FileTree
import LayeredConfig.Source

/-!
# Loading structured files

The ending of a path tells the format of the file. A document must be a table at the top; its flat
entries become a layer that is named for the path. YAML is read by the parser of the host, and a
YAML document of nothing is an empty table.
-/

namespace LayeredConfig

/-- An action whose failures over a file are reported as failures of a layer. -/
def Action.orLayerFailure {σ α : Type} (layer path : String) (wrap : Error → Error)
    (x : Action σ α) : Action σ α :=
  x.handle fun e =>
    if e.category = .invalidFormat || e.category = .notFound then do
      Action.emit [.layerFailed layer path e.message]
      Action.fail (wrap e)
    else Action.fail e

/-- What there is where a library runs: files, and a parser for YAML. -/
structure Host where
  files : FileTree
  yaml : Document.Parser

namespace Document

/-- The formats by the endings of files. -/
def endings : List (String × Format) :=
  [(".toml", .toml), (".json", .json), (".yaml", .yaml), (".yml", .yaml)]

/-- The format of the file at a path; capitals in the ending do not matter. -/
def formatFor (path : String) : Except Error Format :=
  let ending := Text.lowerString (Path.ofString path).suffix
  match endings.lookup ending with
  | some format => .ok format
  | none => .error (.unsupportedEnding ending path)

/-- The value that a document of a format holds. -/
def read (yaml : Parser) (format : Format) (bytes : List UInt8) : Except Failure Value :=
  match format with
  | .toml => Failure.ofOption (Toml.read? bytes)
  | .json => Failure.ofOption (Json.read? bytes)
  | .yaml => (yaml bytes).map fun v => if v.isNull then .dict [] else v

/-- The bytes of the file at a path, none if no file is there. -/
def bytesAt (t : FileTree) (path : String) : Except Error (List UInt8) :=
  let place := Path.ofString path
  if t.refuses place then .error (.pathTooLong place.text)
  else
    match t.read? place with
    | some bytes => .ok bytes
    | none => .error (.fileNotFound path)

/-- The flat entries of the document that bytes hold. -/
def entriesOf {σ : Type} (yaml : Parser) (format : Format) (path : String) (bytes : List UInt8) :
    Action σ (List (String × Value)) :=
  match read yaml format bytes with
  | .error failure =>
    match failure.fault? with
    | some f => Action.fail (.fault f)
    | none => do
      Action.emit [.fileInvalid path format Error.detail]
      Action.fail (.unreadable format path)
  | .ok (.dict table) => do
    let entries ← Action.ofExcept ((flatten "" table).mapError .fault)
    Action.emit [.fileLoaded path format entries.length]
    pure entries
  | .ok _ => do
    Action.emit [.fileInvalid path format "not a mapping"]
    Action.fail (.notMapping path)

/-- The flat entries of the document in a file. -/
def load {σ : Type} (host : Host) (format : Format) (path : String) :
    Action σ (List (String × Value)) := do
  let bytes ← Action.ofExcept (bytesAt host.files path)
  Action.emit [.fileRead path bytes.length]
  entriesOf host.yaml format path bytes

/-- The name of the layer of a file. -/
def layerName (path : String) : String := "file:" ++ path

/-- The layer of the file at a path. -/
def loadLayer {σ : Type} (host : Host) (path : String) : Action σ Source := do
  let entries ← Action.orLayerFailure "file" path (.fileLoad path) do
    let format ← Action.ofExcept (formatFor path)
    load host format path
  pure ⟨layerName path, .mapping entries⟩

end Document

end LayeredConfig
