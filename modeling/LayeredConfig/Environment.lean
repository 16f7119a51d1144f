import LayeredConfig.Profile.Condition
import LayeredConfig.Resolver

/-!
# Environments — sources, their resolver, and profiles

Profiles are active because they were set, or because the configuration names them while none was
set. While no profile is active the default profiles count as active. These are the reserved one
alone, unless others were set or the configuration names others.
-/

namespace LayeredConfig

structure Environment where
  chain : Chain Store
  resolver : Resolver
  active : List String
  defaults : List String
  deriving Inhabited

namespace Environment

/-- The key under which the configuration names active profiles. -/
def activeKey : String := "layered.profiles.active"

/-- The key under which the configuration names default profiles. -/
def defaultKey : String := "layered.profiles.default"

/-- The default profile while none is named. -/
def reservedProfile : String := "default"

/-- An environment without active profiles. -/
def new (chain : Chain Store) (registry : Registry) : Environment :=
  ⟨chain, .new registry, [], [reservedProfile]⟩

/-- An action of the resolver over the sources of the environment. -/
def resolving {α : Type} (x : List Source → Action Resolver α) : Action Environment α := fun e =>
  Action.onPart (·.resolver) (fun r e => { e with resolver := r }) (x e.chain.layers) e

/-! ## Profiles -/

/-- The entries of a configured list of profiles; what counts as false has none. -/
def profileEntries (v : Value) : Except Error (List String) :=
  match v.plain with
  | .text s => .ok (Conversion.splitCommas s)
  | .bytes bs => if bs.isEmpty then .ok [] else .error (.fault .notSplittable)
  | _ => if v.isTruthy then .error (.fault (.noAttribute v.kindName "split")) else .ok []

/-- The profiles that the configuration names under a key. -/
def configuredProfiles (key : String) : Action Environment (List String) := do
  let v ← resolving fun sources => Resolver.getValue sources key (some (.kind .str)) .null
  Action.ofExcept (profileEntries v)

/-- Activates exactly these profiles. -/
def setActive (profiles : List Value) : Action Environment Unit := do
  let names ← Action.ofExcept (Profile.namesOf profiles)
  Action.emit [.profilesActivated names]
  Action.modify fun e => { e with active := Profile.distinctNames names }

/-- Puts exactly these profiles in place of the default ones. -/
def setDefaults (profiles : List Value) : Action Environment Unit := do
  let names ← Action.ofExcept (Profile.namesOf profiles)
  Action.modify fun e => { e with defaults := Profile.distinctNames names }

/-- Activates the configured profiles if none is active. -/
def seedActive : Action Environment Unit := do
  let active ← Action.read (·.active)
  if active.isEmpty then do
    let configured ← configuredProfiles activeKey
    if configured.isEmpty then pure () else setActive (configured.map .text)
  else pure ()

/-- Takes the configured default profiles while there is only the reserved one. -/
def seedDefaults : Action Environment Unit := do
  let defaults ← Action.read (·.defaults)
  if defaults = [reservedProfile] then do
    let configured ← configuredProfiles defaultKey
    if configured.isEmpty then pure () else setDefaults (configured.map .text)
  else pure ()

/-- The active profiles. -/
def activeProfiles : Action Environment (List String) := do
  seedActive
  Action.read (·.active)

/-- The default profiles. -/
def defaultProfiles : Action Environment (List String) := do
  seedDefaults
  Action.read (·.defaults)

/-- Activates one more profile. -/
def addActive (profile : Value) : Action Environment Unit := do
  let name ← Action.ofExcept (Profile.nameOf profile)
  Action.emit [.profilesActivated [name]]
  seedActive
  Action.modify fun e => { e with active := Profile.distinctNames (e.active ++ [name]) }

/-- Whether a profile is active, or a default one while none is active. -/
def isProfileActive (profile : Value) : Action Environment Bool := do
  let name ← Action.ofExcept (Profile.nameOf profile)
  let active ← activeProfiles
  if name ∈ active then pure true
  else if active.isEmpty then do
    let defaults ← defaultProfiles
    pure (decide (name ∈ defaults))
  else pure false

/-- Whether a condition holds of the profiles. -/
def acceptsCondition (c : Profile.Condition) : Action Environment Bool :=
  c.evaluate fun name => isProfileActive (.text (String.ofList name))

/-- Whether any of the expressions holds of the profiles. -/
def accepts (expressions : List Value) : Action Environment Bool := do
  let c ← Action.ofExcept (Profile.Condition.ofExpressions expressions)
  acceptsCondition c

/-- A condition that was read before stands alone. -/
def acceptsOnly (c : Profile.Condition) (further : List Value) : Action Environment Bool :=
  if further.isEmpty then acceptsCondition c else Action.fail .mixedExpressions

/-! ## Merging -/

/-- Joins the profiles of a parent to the own ones. The reserved default profile gives way. -/
def absorb (parentActive parentDefaults : List String) : Action Environment Unit :=
  .modify fun e => { e with
    active :=
      if parentActive.isEmpty then e.active
      else Profile.distinctNames (e.active ++ parentActive)
    defaults :=
      if parentDefaults.isEmpty then e.defaults
      else Profile.distinctNames (e.defaults.filter (· ≠ reservedProfile) ++ parentDefaults) }

/-- An environment and the parent that is merged into it. -/
structure Pair where
  child : Environment
  parent : Environment

/-- An action of the child. -/
def onChild {α : Type} (x : Action Environment α) : Action Pair α :=
  Action.onPart (·.child) (fun e p => { p with child := e }) x

/-- An action of the parent. -/
def onParent {α : Type} (x : Action Environment α) : Action Pair α :=
  Action.onPart (·.parent) (fun e p => { p with parent := e }) x

/-- The sources of the parent whose names are new join the chain. -/
def adoptSources (parent : Chain Store) : Action Environment Unit := fun e =>
  let (chain, events) := e.chain.adopt parent
  ⟨{ e with chain := chain }, events, .ok ()⟩

/-- Merges the parent into the child: its sources join first, then its profiles are read and
joined. -/
def merge : Action Pair Unit := do
  let parent ← Action.read (·.parent)
  onChild (adoptSources parent.chain)
  let active ← onParent activeProfiles
  let defaults ← onParent defaultProfiles
  onChild (absorb active defaults)

/-- Merges an environment into itself. -/
def mergeSelf : Action Environment Unit := do
  let active ← activeProfiles
  let defaults ← defaultProfiles
  absorb active defaults

/-! ## Display -/

/-- An environment as it is shown, with the profiles stored so far. -/
def quoted (active defaults names : List String) : String :=
  "Environment(active_profiles=" ++ quotedNames active ++ ", default_profiles=" ++
    quotedNames defaults ++ ", sources=" ++ quotedNames names ++ ")"

end Environment

end LayeredConfig
