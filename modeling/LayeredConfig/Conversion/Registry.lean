import LayeredConfig.Conversion.Builtin
import LayeredConfig.Error
import LayeredConfig.Text.Case

/-!
# Conversion of values to targets

A registry assigns conversion functions to kinds. The function for a target is the one of the
nearest ancestor that has any. Values that fit the target already are left as they are, and
nothing stays nothing.
-/

namespace LayeredConfig

/-- A conversion function is called with a value, or with a value and the target it is wanted for. -/
structure Converter where
  call : Value → Except Error Value
  callFor : Value → Target → Except Error Value

namespace Converter

/-- A function that works on a value alone. With a target it meets a fault. -/
def ofValue (excess : Fault) (run : Value → Except Error Value) : Converter where
  call := run
  callFor _ _ := .error (.fault excess)

/-- A function that works on a value and a target. Without a target it meets a fault. -/
def ofValueAndTarget (lack : Fault) (run : Value → Target → Except Error Value) : Converter where
  call _ := .error (.fault lack)
  callFor := run

end Converter

/-- The kinds with a conversion function, the last registered first. -/
structure Registry where
  entries : List (Kind × Converter)

namespace Registry

/-- The name of the built-in function for a kind, as messages show it. -/
def label : Kind → String
  | .path | .uuid => "DefaultTypeConverter._register_defaults.<locals>.<lambda>"
  | k => "_to_" ++ Text.lowerString k.name

/-- What the built-in function for a kind meets if it is called with a target as well. Collections are
built by functions of their own names. -/
def excess : Kind → Fault
  | .list => .argumentExcess Kind.list.name
  | .tuple => .argumentExcess Kind.tuple.name
  | .set => .argumentExcess Kind.set.name
  | .frozenset => .argumentExcess Kind.frozenset.name
  | k => .argumentCount (label k)

/-- The built-in function for a kind, made of one that gives values of that kind alone. -/
def builtin {α : Type} (k : Kind) (wrap : α → Value) (run : Value → Except Fault α) :
    Kind × Converter :=
  (k, .ofValue (excess k) fun v => ((run v).map wrap).mapError .fault)

/-- The built-in function for enumerations, which finds a member of the target. -/
def builtinMember : Kind × Converter :=
  (.enum, .ofValueAndTarget (.argumentMissing (label .enum) "enum_type") fun v target =>
    match target.enumeration? with
    | some e => (Conversion.toMember e v).mapError .fault
    | none => .error (.fault .noTarget))

/-- The elements of a value, each once. -/
def elementSet (v : Value) : Except Fault (List Value) := do
  let items ← Conversion.elements v
  Conversion.setItems items

/-- The built-in conversion functions. -/
def standard : Registry where
  entries := [
    builtin .str .text Conversion.toText,
    builtin .int .int Conversion.toInt,
    builtin .float .float Conversion.toFloat,
    builtin .decimal .decimal Conversion.toDecimal,
    builtin .bool id Conversion.toBool,
    builtin .path id Conversion.toPath,
    builtin .uuid id Conversion.toUuid,
    builtinMember,
    builtin .list .list Conversion.elements,
    builtin .tuple .tuple Conversion.elements,
    builtin .set .set elementSet,
    builtin .frozenset .frozenset elementSet]

instance : Inhabited Registry := ⟨standard⟩

/-- A registry with one more function, in place of an earlier one for the same kind. -/
def register (r : Registry) (k : Kind) (c : Converter) : Registry :=
  ⟨(k, c) :: r.entries⟩

/-- The function registered for exactly this kind. -/
def find? (r : Registry) (k : Kind) : Option Converter :=
  (r.entries.find? fun entry => entry.1 = k).map (·.2)

/-- The function of the nearest ancestor that has one. -/
def lookup? (r : Registry) (target : Target) : Option Converter :=
  target.ancestors.findSome? r.find?

/-- The reason of a refusal that an error gives. -/
def reasonOf : Error → Refusal
  | .fault f => .rejected f
  | e => .stated e.message

/-- Errors that say that the value is bad become refusals of it; other errors pass, and so do refusals
that a function makes itself. -/
def refusalOf (v : Value) (target : Target) (e : Error) : Error :=
  if e.category.isCaught then Error.refuse v target (reasonOf e) else e

/-- Enumerations hand over the target, collections the list of their items. -/
def apply (c : Converter) (v : Value) (target : Target) : Except Error Value :=
  if target.enumeration?.isSome then c.callFor v target
  else
    match target.kind? with
    | some .list | some .tuple | some .set | some .frozenset =>
      c.call (.list (Conversion.itemsOf v))
    | _ => c.call v

/-- The value converted to the target. -/
def convert (r : Registry) (v : Value) (target : Target) : Except Error Value :=
  if v.isNull then .ok v
  else if target.isGeneric then .error (Error.refuse v target .generic)
  else if target.kind? = some .object then .ok v
  else
    match v.fits target with
    | .error f => .error (.fault f)
    | .ok true => .ok v
    | .ok false =>
      match r.lookup? target with
      | none => .error (Error.refuse v target .unregistered)
      | some c => (apply c v target).mapError (refusalOf v target)

/-- The value converted to a target that may be missing. Only nothing can do without one. -/
def convertTo (r : Registry) (v : Value) (target : Option Target) : Except Error Value :=
  match target with
  | some t => r.convert v t
  | none => if v.isNull then .ok v else .error (.fault .noTarget)

/-- Whether values of a class, given with its ancestors, can be converted to the target. -/
def canConvert (r : Registry) (source : List Kind) (target : Target) : Except Fault Bool :=
  if target.isGeneric then .ok false
  else if target.kind? = some .object then .ok true
  else (target.hasSubclass source).map (· || (r.lookup? target).isSome)

/-- Whether values of a source can be converted to a target, where either may be missing. A missing
source will do only for targets that need no look at it. -/
def canConvertTo (r : Registry) (source target : Option Target) : Except Error Bool :=
  match source, target with
  | some s, some t => (r.canConvert s.ancestors t).mapError .fault
  | none, some t =>
    if t.isGeneric || t.kind? = some .object then .ok (!t.isGeneric)
    else .error (.fault .noSourceClass)
  | some _, none => .error (.fault .noTargetClass)
  | none, none => .error (.fault .noSourceClass)

end Registry

end LayeredConfig
