import LayeredConfig.Document.Load
import LayeredConfig.Dotenv.Load
import LayeredConfig.Variables.Load
import LayeredConfig.Workspace

/-!
# Layering — what an environment is built from

The variables of the process win over the `.env` file, which wins over structured files. Of these
a later one wins over those before it, and a file that is named twice counts at its last place.
-/

namespace LayeredConfig

structure Layering where
  files : List String
  environ : List (String × Value)
  variableMark : Option String
  withVariables : Bool
  dotenvStart : Option String
  withDotenv : Bool

namespace Layering

variable {σ : Type}

/-- A loaded layer joins a chain with the lowest precedence. -/
def join (c : Chain Store) (path : Option String) (s : Source) : Action σ (Chain Store) := do
  let (joined, event) := c.addLast s
  Action.emit [event, .layerLoaded s.name path s.content.entries.length]
  pure joined

/-- The layer of variables joins a chain. -/
def joinVariables (l : Layering) (c : Chain Store) : Action σ (Chain Store) :=
  if l.withVariables then do
    let s ← Variables.load l.environ l.variableMark Variables.layerName
    join c none s
  else pure c

/-- The layer of the `.env` file that is found joins a chain. -/
def joinDotenv (t : FileTree) (l : Layering) (c : Chain Store) : Action σ (Chain Store) :=
  if l.withDotenv || l.dotenvStart.isSome then do
    let found ← Action.ofExcept (Dotenv.find t l.dotenvStart [])
    match found with
    | none => do
      Action.emit [.dotenvNotFound]
      pure c
    | some path => do
      let s ← Action.orLayerFailure Dotenv.layerName path.text (.dotenvLoad path.text)
        (Dotenv.read t path)
      join c (some path.text) s
  else pure c

/-- The files from the one that wins on, each once. -/
def fileOrder (files : List String) : List String :=
  files.reverse.eraseDups

/-- The layers of files join a chain, one after the other. -/
def joinFiles (host : Host) (c : Chain Store) : List String → Action σ (Chain Store)
  | [] => pure c
  | path :: rest => do
    let s ← Document.loadLayer host path
    let c ← join c (some path) s
    joinFiles host c rest

/-- The chain of all layers. -/
def build (host : Host) (l : Layering) : Action σ (Chain Store) := do
  let c ← l.joinVariables .empty
  let c ← l.joinDotenv host.files c
  let c ← joinFiles host c (fileOrder l.files)
  Action.emit [.environmentBuilt c.names]
  pure c

end Layering

/-- Builds an environment in a workspace; no trace identifier is bound from then on. -/
def Workspace.buildEnvironment (host : Host) (l : Layering) (registry : Registry) :
    Action Workspace Nat := do
  bindTraceId none
  let c ← l.build host
  adoptEnvironment (.new c registry)

end LayeredConfig
