import LayeredConfig.Error
import LayeredConfig.Variables.Names

/-!
# Stores — what layers hold

A store answers keys with values; nothing stands for a key that is not there. Variables answer
every spelling of their names. A reserved store holds a place without values, and a comparison
store serves to name a layer and refuses to be read.
-/

namespace LayeredConfig

inductive Store where
  | mapping (entries : List (String × Value))
  | variables (entries : List (String × Value))
  | probed (entries : List (String × Value))
  | reserved
  | comparison
  deriving Repr, Inhabited

namespace Store

/-- The value under exactly this name, nothing if there is none. -/
def valueOf (entries : List (String × Value)) (name : String) : Value :=
  ((entries.find? (·.1 == name)).map (·.2)).getD .null

/-- The entries that can be seen from outside. -/
def entries : Store → List (String × Value)
  | .mapping entries | .variables entries | .probed entries => entries
  | .reserved | .comparison => []

/-- The kind of a store, as it is shown with the name of a layer. -/
def label : Store → String
  | .mapping _ => "MapSource"
  | .variables _ => "EnvironmentSource"
  | .probed _ => "ProbeSource"
  | .reserved => "StubSource"
  | .comparison => "_ComparisonSource"

/-- The name in a store that answers a key. -/
def resolve? (s : Store) (key : String) : Option String :=
  match s with
  | .variables entries => Variables.resolve? (entries.map (·.1)) key
  | _ => if s.entries.any (·.1 == key) then some key else none

/-- The value for a key. -/
def get (s : Store) (key : String) : Except Error Value :=
  match s with
  | .mapping entries | .probed entries => .ok (valueOf entries key)
  | .variables entries =>
    .ok (((Variables.resolve? (entries.map (·.1)) key).map (valueOf entries)).getD .null)
  | .reserved => .ok .null
  | .comparison => .error (.fault .comparisonRead)

/-- Whether a store holds a key; for variables it is enough that the name is there. -/
def contains (s : Store) (key : String) : Except Error Bool :=
  match s with
  | .mapping entries | .probed entries => .ok (!(valueOf entries key).isNull)
  | .variables entries => .ok (Variables.resolve? (entries.map (·.1)) key).isSome
  | .reserved => .ok false
  | .comparison => .error (.fault .comparisonRead)

/-- Whether the keys can be listed. -/
def isEnumerable : Store → Bool
  | .mapping _ | .variables _ => true
  | .probed _ | .reserved | .comparison => false

def noAttribute {α : Type} (s : Store) (member : String) : Except Error α :=
  .error (.fault (.noAttribute s.label member))

/-- The names in a store, in order. -/
def keyNames (s : Store) : Except Error (List String) :=
  if s.isEnumerable then .ok (s.entries.map (·.1)) else s.noAttribute "key_names"

/-- The names that come up when a store is walked through. -/
def listed (s : Store) : Except Error (List String) :=
  if s.isEnumerable then .ok (s.entries.map (·.1))
  else .error (.fault (.notIterable s.label))

/-- The name that answers a key, for variables only. -/
def resolveName (s : Store) (key : String) : Except Error (Option String) :=
  match s with
  | .variables entries => .ok (Variables.resolve? (entries.map (·.1)) key)
  | _ => s.noAttribute "resolve_name"

/-- The entries behind a store. -/
def backing (s : Store) : Except Error (List (String × Value)) :=
  match s with
  | .comparison => .error (.fault .comparisonRead)
  | _ => .ok s.entries

/-- A store with the same kind and other entries. -/
def withEntries (s : Store) (entries : List (String × Value)) : Store :=
  match s with
  | .mapping _ => .mapping entries
  | .variables _ => .variables entries
  | .probed _ => .probed entries
  | .reserved => .reserved
  | .comparison => .comparison

/-- Entries with one more; a name that is there keeps its place and takes the value. -/
def putEntry (entries : List (String × Value)) (name : String) (v : Value) :
    List (String × Value) :=
  if entries.any (·.1 == name) then
    entries.map fun (n, old) => if n == name then (n, v) else (n, old)
  else entries ++ [(name, v)]

/-- Entries in which each name has its last value at its first place. -/
def ofPairs (pairs : List (String × Value)) : List (String × Value) :=
  pairs.foldl (fun acc (name, v) => putEntry acc name v) []

def put (s : Store) (name : String) (v : Value) : Store :=
  s.withEntries (putEntry s.entries name v)

def delete (s : Store) (name : String) : Store :=
  s.withEntries (s.entries.filter fun (n, _) => !(n == name))

end Store

end LayeredConfig
