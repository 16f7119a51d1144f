import LayeredConfig.Environment

/-!
# Workspaces — objects that are shared by number

Sources, chains and resolvers can be used from several places at once, and a change is seen from
all of them. A workspace numbers such objects; a chain in it lists the numbers of its sources.
-/

namespace LayeredConfig

/-- A resolver and the chain it searches, if any. -/
structure BoundResolver where
  chain : Option Nat
  resolver : Resolver
  deriving Inhabited

/-- An environment over a shared chain and a shared resolver. -/
structure BoundEnvironment where
  chain : Nat
  resolver : Nat
  active : List String
  defaults : List String
  deriving Inhabited

structure Workspace where
  sources : List Source
  chains : List (Chain Nat)
  resolvers : List BoundResolver
  environments : List BoundEnvironment
  traceId : Option String

namespace Workspace

def empty : Workspace := ⟨[], [], [], [], none⟩

/-! ## Objects -/

def source (w : Workspace) (i : Nat) : Source := w.sources.getD i ⟨"", .reserved⟩

def chain (w : Workspace) (i : Nat) : Chain Nat := w.chains.getD i .empty

def resolver (w : Workspace) (i : Nat) : BoundResolver := w.resolvers.getD i default

def environment (w : Workspace) (i : Nat) : BoundEnvironment := w.environments.getD i default

/-- A chain over the stores behind its numbers. -/
def view (w : Workspace) (c : Chain Nat) : Chain Store :=
  c.map fun i => (w.source i).content

/-- The sources that a resolver searches. -/
def searched (w : Workspace) (r : BoundResolver) : List Source :=
  match r.chain with
  | some c => (w.view (w.chain c)).layers
  | none => []

def addSource (s : Source) : Action Workspace Nat := fun w =>
  ⟨{ w with sources := w.sources ++ [s] }, [], .ok w.sources.length⟩

def setStore (i : Nat) (store : Store) : Action Workspace Unit :=
  .modify fun w => { w with sources := w.sources.set i { w.source i with content := store } }

/-- A layer of a chain of numbers. -/
def layerOf (w : Workspace) (i : Nat) : Layer Nat := ⟨(w.source i).name, i⟩

/-! ## Chains -/

def addChain (c : Chain Nat) : Action Workspace Nat := fun w =>
  ⟨{ w with chains := w.chains ++ [c] }, [], .ok w.chains.length⟩

/-- A chain of sources, each added with the lowest precedence. -/
def newChain (sources : List Nat) : Action Workspace Nat := do
  let layers ← Action.read fun w => sources.map w.layerOf
  let (c, events) := Chain.empty.addAll layers
  Action.emit events
  addChain c

/-- Puts a changed chain in the place of an old one. -/
def setChain (i : Nat) (changed : Chain Nat × Event) : Action Workspace Unit := fun w =>
  ⟨{ w with chains := w.chains.set i changed.1 }, [changed.2], .ok ()⟩

/-- Changes a chain by what a source joins it with. -/
def changeChain (i source : Nat) (change : Chain Nat → Layer Nat → Except Error (Chain Nat × Event)) :
    Action Workspace Unit := do
  let changed ← Action.read fun w => change (w.chain i) (w.layerOf source)
  let changed ← Action.ofExcept changed
  setChain i changed

/-- Takes the source with a name out of a chain, if there is one. -/
def removeFrom (i : Nat) (name : String) : Action Workspace (Option Nat) := do
  let removed ← Action.read fun w => (w.chain i).remove name
  match removed with
  | none => pure none
  | some (l, c, event) => do
    setChain i (c, event)
    pure (some l.content)

/-! ## Resolvers -/

def addResolver (chain : Option Nat) (r : Resolver) : Action Workspace Nat := fun w =>
  ⟨{ w with resolvers := w.resolvers ++ [⟨chain, r⟩] }, [], .ok w.resolvers.length⟩

/-- An action of a resolver over the sources it searches. -/
def onResolver {α : Type} (i : Nat) (x : List Source → Action Resolver α) : Action Workspace α :=
  fun w =>
    let bound := w.resolver i
    let put (r : Resolver) (w : Workspace) :=
      { w with resolvers := w.resolvers.set i { bound with resolver := r } }
    Action.onPart (fun _ => bound.resolver) put (x (w.searched bound)) w

/-! ## Environments -/

/-- An environment with its chain and its resolver in it. -/
def load (w : Workspace) (i : Nat) : Environment :=
  let e := w.environment i
  ⟨w.view (w.chain e.chain), (w.resolver e.resolver).resolver, e.active, e.defaults⟩

/-- Puts the resolver and the profiles of an environment back. -/
def store (i : Nat) (e : Environment) (w : Workspace) : Workspace :=
  let bound := w.environment i
  { w with
    resolvers :=
      w.resolvers.set bound.resolver { w.resolver bound.resolver with resolver := e.resolver }
    environments :=
      w.environments.set i { bound with active := e.active, defaults := e.defaults } }

/-- An action of an environment that leaves its chain as it is. -/
def onEnvironment {α : Type} (i : Nat) (x : Action Environment α) : Action Workspace α :=
  Action.onPart (fun w => w.load i) (store i) x

/-- A new environment over a chain that is there. -/
def newEnvironment (chain : Nat) (registry : Registry) : Action Workspace Nat := do
  let resolver ← addResolver (some chain) (.new registry)
  fun w =>
    let e : BoundEnvironment := ⟨chain, resolver, [], [Environment.reservedProfile]⟩
    ⟨{ w with environments := w.environments ++ [e] }, [], .ok w.environments.length⟩

/-- Takes an environment in that was built outside. -/
def adoptEnvironment (e : Environment) : Action Workspace Nat := do
  let numbers ← e.chain.layers.mapM addSource
  let layers ← Action.read fun w => numbers.map w.layerOf
  let chain ← addChain (Chain.empty.addAll layers).1
  let i ← newEnvironment chain e.resolver.registry
  Action.modify (store i e)
  pure i

/-- The parent's sources join the chain of the child by number. -/
def adoptNumbers (child parent : Nat) (w : Workspace) : Workspace :=
  let c := (w.environment child).chain
  let p := (w.environment parent).chain
  { w with chains := w.chains.set c ((w.chain c).adopt (w.chain p)).1 }

/-- Merges one environment into another, or into itself. -/
def merge (child parent : Nat) : Action Workspace Unit :=
  if child = parent then onEnvironment child Environment.mergeSelf
  else
    let put (pair : Environment.Pair) (w : Workspace) :=
      store parent pair.parent (store child pair.child (adoptNumbers child parent w))
    Action.onPart (fun w => ⟨w.load child, w.load parent⟩) put Environment.merge

def bindTraceId (traceId : Option String) : Action Workspace Unit :=
  .modify fun w => { w with traceId := traceId }

end Workspace

end LayeredConfig
