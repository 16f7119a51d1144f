import LayeredConfig.Chain.Basic
import LayeredConfig.Store
import LayeredConfig.Text.Character
import LayeredConfig.Value.Equality

/-!
# Sources — layers over stores

A source is known by its name alone, which has a character that is not blank.
-/

namespace LayeredConfig

/-- A layer whose content is a store. -/
abbrev Source : Type := Layer Store

namespace Source

/-- The name that a value gives to a source. -/
def nameOf (v : Value) : Except Error String :=
  match v.plain with
  | .text name => if Text.isBlankText name then .error .blankSourceName else .ok name
  | _ => .error .blankSourceName

/-- A source with a name and a store, both of which must be there. -/
def make (name : Value) (store : Option Store) : Except Error Source := do
  let name ← nameOf name
  match store with
  | some s => pure ⟨name, s⟩
  | none => .error (.noBacking name)

/-- A source as the call that makes it. -/
def quoted (s : Source) : String :=
  s.content.label ++ "(name=" ++ Text.quoted s.name ++ ")"

/-- Sources are the same if their names are. -/
def sameAs (s other : Source) : Bool :=
  s.name == other.name

/-- Whether a source and a value are hashed alike: a text that is its name, bytes that write the
name, or a member of that name. -/
def hashesLike (s : Source) (v : Value) : Except Error Bool :=
  match v.unhashable? with
  | some (.ofKind kind) => .error (.fault (.unhashableKind kind))
  | some .signalingNan => .error (.fault .unhashableNan)
  | none =>
    match v.plain with
    | .text name => .ok (name == s.name)
    | .bytes bs => .ok (bs.map (·.toNat) == s.name.toList.map (·.toNat))
    | .member _ name _ => .ok (name == s.name)
    | _ => .ok false

end Source

end LayeredConfig
