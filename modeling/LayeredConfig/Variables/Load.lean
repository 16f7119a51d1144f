import LayeredConfig.Action
import LayeredConfig.Source

/-!
# Loading the variables of a process

What counts of the variables is copied when they are loaded: a source reads a mapping of its own, which
changes of the variables do not reach.
-/

namespace LayeredConfig.Variables

/-- Mappings that may change, by their numbers. -/
abbrev Mappings : Type := List (List (String × Value))

/-- A source that reads one of the mappings. -/
structure Held where
  name : String
  mapping : Nat
  deriving DecidableEq, Repr

/-- What a source reads as long as the mappings are such. -/
def Held.seen (h : Held) (ms : Mappings) : Source :=
  ⟨h.name, .variables (ms.getD h.mapping [])⟩

/-- A new mapping with these entries. -/
def newMapping (entries : List (String × Value)) : Action Mappings Nat := fun ms =>
  ⟨ms ++ [entries], [], .ok ms.length⟩

/-- A source over those variables in a mapping that carry a prefix. -/
def loadFrom (environ : Nat) (given : Option String) (name : String) : Action Mappings Held := do
  let entries ← Action.read fun ms => collect (mark given) (ms.getD environ [])
  let number ← newMapping entries
  Action.emit [.variablesLoaded name entries.length]
  let source ← Action.ofExcept (Source.make (.text name) (some (.variables entries)))
  pure ⟨source.name, number⟩

/-- The layer of the variables that carry a prefix. -/
def load {σ : Type} (environ : List (String × Value)) (given : Option String) (name : String) :
    Action σ Source :=
  Action.within [environ] do
    let held ← loadFrom 0 given name
    Action.read held.seen

end LayeredConfig.Variables
