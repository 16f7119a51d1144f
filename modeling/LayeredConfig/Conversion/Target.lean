import LayeredConfig.Conversion.Fault
import LayeredConfig.Value.Equality

/-!
# Targets — what values are converted to

A target is a kind, an enumeration with its members, a class that a program makes, or a kind with
parameters, which is never supported. What belongs to a target shows in the kinds of a value, but a class
may have a test of its own, and a test may fail.
-/

namespace LayeredConfig

/-- A closed set of named values. A later name of the same value is an alias of the first. For a value
that no member has the class may still make one, for example a combination of flags; classes of flags that
give a number back instead of a member are left out. -/
structure Enumeration extends EnumClass where
  entries : List (String × Value)
  missing : Value → Except Fault (Option (String × Value))

instance : Repr Enumeration := ⟨fun e _ => e.name⟩

namespace Enumeration

/-- An enumeration whose members are the declared ones alone. -/
def declaring (c : EnumClass) (entries : List (String × Value)) : Enumeration :=
  { c with entries, missing := fun _ => .ok none }

/-- The base of all enumerations, which has no members. -/
def base : Enumeration := declaring (.plain 0 "Enum") []

instance : Inhabited Enumeration := ⟨base⟩

/-- One more name is declared for the first member with its value, or else for a member of its own. -/
def declare (declared : List (String × String × Value)) (entry : String × Value) :
    List (String × String × Value) :=
  declared ++ [(entry.1, ((declared.map (·.2)).find? (·.2.same entry.2)).getD entry)]

/-- The declared names, each with the member that it stands for. -/
def declarations (e : Enumeration) : List (String × String × Value) :=
  e.entries.foldl declare []

/-- The members in order of declaration, aliases left out. -/
def members (e : Enumeration) : List (String × Value) :=
  (e.declarations.filter fun d => d.1 == d.2.1).map (·.2)

/-- The value that stands for a member. -/
def member (e : Enumeration) (entry : String × Value) : Value :=
  .member e.toEnumClass entry.1 entry.2

/-- The member that a name or an alias declares. -/
def declared? (e : Enumeration) (name : String) : Option Value :=
  (e.declarations.find? (·.1 == name)).map fun d => e.member d.2

/-- Whether a value is an integer with just one bit. -/
def isSingleBit (v : Value) : Bool :=
  match v.plain with
  | .int n => 0 < n && n.toNat &&& (n.toNat - 1) == 0
  | .bool b => b
  | _ => false

/-- The members that are met when an enumeration is gone through: of flags only the single ones. -/
def listed (e : Enumeration) : List (String × Value) :=
  if e.flags.isSome then e.members.filter fun entry => isSingleBit entry.2 else e.members

end Enumeration

/-- A class that a program makes and that is no enumeration. `bases` is what it derives from, nearest
first, before the class of all objects. The tests tell which values are instances of the class, and
which classes, given with their ancestors, are taken for classes below it. -/
structure OwnClass where
  number : Nat
  name : String
  bases : List Kind
  hasInstance : Value → Except Fault Bool
  hasSubclass : List Kind → Except Fault Bool
  isBase_bases : ∀ k ∈ bases, k.isBase = true

instance : Repr OwnClass := ⟨fun c _ => c.name⟩

namespace OwnClass

def kind (c : OwnClass) : Kind :=
  .made c.number c.name

def ancestors (c : OwnClass) : List Kind :=
  c.kind :: (c.bases ++ [.object])

/-- A class whose tests go by what a value or a class derives from. -/
def ordinary (number : Nat) (name : String) (bases : List Kind) (h : ∀ k ∈ bases, k.isBase = true) :
    OwnClass where
  number
  name
  bases
  hasInstance v := .ok (v.isA (.made number name))
  hasSubclass source := .ok (source.contains (.made number name))
  isBase_bases := h

end OwnClass

/-- What a value is converted to. -/
inductive Target where
  | kind (k : Kind)
  | enumeration (e : Enumeration)
  | own (c : OwnClass)
  | generic (origin : Kind) (parameters : List String)
  deriving Repr, Inhabited

namespace Target

/-- The name of a target in messages, without parameters. -/
def name : Target → String
  | .kind k => k.name
  | .enumeration e => e.name
  | .own c => c.name
  | .generic origin _ => origin.name

def isGeneric : Target → Bool
  | .generic .. => true
  | _ => false

/-- The kinds that a target derives from, nearest first, itself included. With parameters it is no
kind of its own, nor does it derive from the one without. -/
def ancestors : Target → List Kind
  | .kind k => k.ancestors
  | .enumeration e => e.toEnumClass.ancestors
  | .own c => c.ancestors
  | .generic .. => [.object]

/-- The kind that a target is. -/
def kind? : Target → Option Kind
  | .kind k => some k
  | .enumeration e => some e.kind
  | .own c => some c.kind
  | .generic .. => none

/-- The targets that stand for numbers. -/
def isNumber (target : Target) : Bool :=
  target.kind? = some .int || target.kind? = some .float || target.kind? = some .decimal

/-- The members that a target chooses from, if it is an enumeration or the base of all. -/
def enumeration? : Target → Option Enumeration
  | .enumeration e => some e
  | .kind .enum => some .base
  | _ => none

/-- Whether a value is an instance of a target. -/
def hasInstance (target : Target) (v : Value) : Except Fault Bool :=
  match target with
  | .kind k => .ok (v.isA k)
  | .enumeration e => .ok (v.isA e.kind)
  | .own c => c.hasInstance v
  | .generic .. => .ok false

/-- Whether a class, given with its ancestors, is a target or derives from it. -/
def hasSubclass (target : Target) (source : List Kind) : Except Fault Bool :=
  match target with
  | .kind k => .ok (source.contains k)
  | .enumeration e => .ok (source.contains e.kind)
  | .own c => c.hasSubclass source
  | .generic .. => .ok false

end Target

/-- Whether a value fits a target: it is an instance of it, but a Boolean is no number. -/
def Value.fits (v : Value) (target : Target) : Except Fault Bool :=
  if v.isBool && target.isNumber then .ok false else target.hasInstance v

end LayeredConfig
