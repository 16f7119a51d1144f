/-!
# Kinds — the classes of values

A kind is a class that values belong to: one of the classes that configuration values have, or a class
that a program makes. A kind has ancestors, itself first, in the order in which they are asked.
-/

namespace LayeredConfig

/-- Classes that are made may have names in common; their numbers tell them apart. -/
inductive Kind where
  | str
  | int
  | float
  | bool
  | decimal
  | path
  | uuid
  | list
  | tuple
  | set
  | frozenset
  | bytes
  | dict
  | complex
  | enum
  | object
  | moment (name : String)
  | null
  | made (number : Nat) (name : String)
  deriving DecidableEq, Repr, Inhabited

namespace Kind

/-- The name of a kind in messages. -/
def name : Kind → String
  | .str => "str"
  | .int => "int"
  | .float => "float"
  | .bool => "bool"
  | .decimal => "Decimal"
  | .path => "Path"
  | .uuid => "UUID"
  | .list => "list"
  | .tuple => "tuple"
  | .set => "set"
  | .frozenset => "frozenset"
  | .bytes => "bytes"
  | .dict => "dict"
  | .complex => "complex"
  | .enum => "Enum"
  | .object => "object"
  | .moment name => name
  | .null => "NoneType"
  | .made _ name => name

/-- A kind and what it derives from, nearest first. -/
def ancestors : Kind → List Kind
  | .object => [.object]
  | .bool => [.bool, .int, .object]
  | .moment "datetime" => [.moment "datetime", .moment "date", .object]
  | k => [k, .object]

/-- What derives from such a kind is a value of it, beside what it is by itself. -/
def holdsData : Kind → Bool
  | .enum | .object | .null | .made .. => false
  | _ => true

/-- What a class that is made may derive from, beside the class of all enumerations and that of all
objects. Nothing derives from the class of Booleans or from that of nothing. -/
def isBase : Kind → Bool
  | .enum | .object | .bool | .null => false
  | _ => true

theorem isBase_of_mem_nil : ∀ k ∈ ([] : List Kind), k.isBase = true :=
  List.forall_mem_nil _

end Kind

/-- The class of an enumeration. `bases` is what it derives from before the class of all enumerations,
nearest first. `flags` has the single flags of a class of flags in the order in which they are listed,
and where `showsValue` is set the text of a member is that of its value. -/
structure EnumClass where
  number : Nat
  name : String
  bases : List Kind
  flags : Option (List (String × Nat))
  showsValue : Bool
  isBase_bases : ∀ k ∈ bases, k.isBase = true
  deriving DecidableEq, Repr

namespace EnumClass

/-- A class that derives from nothing but the class of all enumerations. -/
def plain (number : Nat) (name : String) : EnumClass :=
  ⟨number, name, [], none, false, Kind.isBase_of_mem_nil⟩

instance : Inhabited EnumClass := ⟨plain 0 ""⟩

def kind (c : EnumClass) : Kind :=
  .made c.number c.name

/-- What a member belongs to, its own class first. -/
def ancestors (c : EnumClass) : List Kind :=
  c.kind :: (c.bases ++ [.enum, .object])

/-- Whether members are values of another kind as well. -/
def holdsData (c : EnumClass) : Bool :=
  c.bases.any Kind.holdsData

end EnumClass

end LayeredConfig
