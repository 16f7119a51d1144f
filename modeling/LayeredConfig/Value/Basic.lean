import LayeredConfig.Moment
import LayeredConfig.Number.Binary64
import LayeredConfig.Number.Decimal
import LayeredConfig.Path
import LayeredConfig.Uuid
import LayeredConfig.Value.Kind

/-!
# Configuration values

A value is whatever a source may hold: nothing, a scalar, a member of an enumeration, or a
collection of values. Sets list their elements in the order of insertion, dictionaries their
entries.
-/

namespace LayeredConfig

inductive Value where
  | null
  | bool (b : Bool)
  | text (s : String)
  | int (n : Int)
  | float (x : Binary64)
  | decimal (d : Decimal)
  | path (p : Path)
  | uuid (u : Uuid)
  | bytes (bs : List UInt8)
  | moment (m : Moment)
  | member (c : EnumClass) (name : String) (value : Value)
  | list (items : List Value)
  | tuple (items : List Value)
  | set (items : List Value)
  | frozenset (items : List Value)
  | dict (entries : List (Value × Value))
  deriving Repr, Inhabited

namespace Value

/-- Whether a value is there at all. -/
def isNull : Value → Bool
  | .null => true
  | _ => false

def isBool : Value → Bool
  | .bool _ => true
  | _ => false

/-- The name of a value's own kind. -/
def kindName : Value → String
  | .null => "NoneType"
  | .bool _ => "bool"
  | .text _ => "str"
  | .int _ => "int"
  | .float _ => "float"
  | .decimal _ => "Decimal"
  | .path _ => "PosixPath"
  | .uuid _ => "UUID"
  | .bytes _ => "bytes"
  | .moment m => m.kindName
  | .member c .. => c.name
  | .list _ => "list"
  | .tuple _ => "tuple"
  | .set _ => "set"
  | .frozenset _ => "frozenset"
  | .dict _ => "dict"

/-- The kinds a value belongs to, its own first. -/
def kinds : Value → List Kind
  | .null => [.null, .object]
  | .bool _ => Kind.bool.ancestors
  | .text _ => Kind.str.ancestors
  | .int _ => Kind.int.ancestors
  | .float _ => Kind.float.ancestors
  | .decimal _ => Kind.decimal.ancestors
  | .path _ => Kind.path.ancestors
  | .uuid _ => Kind.uuid.ancestors
  | .bytes _ => Kind.bytes.ancestors
  | .moment m => (Kind.moment m.kindName).ancestors
  | .member c .. => c.ancestors
  | .list _ => Kind.list.ancestors
  | .tuple _ => Kind.tuple.ancestors
  | .set _ => Kind.set.ancestors
  | .frozenset _ => Kind.frozenset.ancestors
  | .dict _ => Kind.dict.ancestors

/-- Whether a value belongs to a kind. -/
def isA (v : Value) (k : Kind) : Bool :=
  v.kinds.contains k

/-- A value as functions see it that know no enumerations: a member that is a value of another kind as
well is that value. -/
def plain : Value → Value
  | .member c name value => if c.holdsData then value else .member c name value
  | v => v

/-- A value whose text was rewritten. If the text has come out the same, so has the value. -/
def reworded (v : Value) (s : String) : Value :=
  match v, v.plain with
  | .text _, _ => .text s
  | _, .text t => if t = s then v else .text s
  | _, _ => .text s

theorem not_isNull_reworded {v : Value} (h : v.isNull = false) (s : String) :
    (v.reworded s).isNull = false := by
  unfold reworded
  split
  next => rfl
  next => split <;> first | exact h | rfl
  next => rfl

theorem reworded_self {v : Value} {s : String} (h : v.plain = .text s) : v.reworded s = v := by
  unfold reworded
  split
  next => exact congrArg text (text.inj h).symm
  next t _ hplain => exact if_pos (text.inj (hplain.symm.trans h))
  next hother => exact absurd h (hother s)

/-- Nothing, zeros and empty texts and collections count as false, and so does a flag without a bit. -/
def isTruthy : Value → Bool
  | .null => false
  | .bool b => b
  | .text s => s ≠ ""
  | .int n => n ≠ 0
  | .float (.finite _ m _) => m ≠ 0
  | .float _ => true
  | .decimal (.finite _ c _) => c ≠ 0
  | .decimal _ => true
  | .bytes bs => !bs.isEmpty
  | .member c _ value => !(c.holdsData || c.flags.isSome) || isTruthy value
  | .list items | .tuple items | .set items | .frozenset items => !items.isEmpty
  | .dict entries => !entries.isEmpty
  | .path _ | .uuid _ | .moment _ => true

end Value

end LayeredConfig
