import LayeredConfig.Value.Basic

/-!
# When values count as the same

Numbers of all kinds are compared by what they equal exactly, so `1`, `1.0` and `true` can be the
same. NaN equals nothing, but the one that documents write is the same as itself. All other values
are compared within their kind; a member that is a value of such a kind as well is compared as that
value. Sets and dictionaries hold no two elements or keys that are the same.
-/

namespace LayeredConfig

/-- What a number equals: `± core · 2 ^ twos · 5 ^ fives` with a core prime to ten. -/
inductive Magnitude where
  | finite (negative : Bool) (core : Nat) (twos fives : Int)
  | infinite (negative : Bool)
  deriving DecidableEq, Repr

namespace Magnitude

def zero : Magnitude := .finite false 0 0 0

/-- A number without its factors `p`, and how many there were; `fuel` bounds their count. -/
def strip (p : Nat) : (fuel n : Nat) → Nat × Nat
  | 0, n => (n, 0)
  | fuel + 1, n =>
    if n % p = 0 then
      let (core, count) := strip p fuel (n / p)
      (core, count + 1)
    else (n, 0)

/-- The magnitude of `± n · 2 ^ twos · 5 ^ fives`. -/
def ofProduct (negative : Bool) (n : Nat) (twos fives : Int) : Magnitude :=
  if n = 0 then zero
  else
    let (withoutTwos, a) := strip 2 (Nat.log2 n + 1) n
    let (core, b) := strip 5 (Nat.log2 n + 1) withoutTwos
    .finite negative core (twos + a) (fives + b)

def ofInt (n : Int) : Magnitude :=
  ofProduct (n < 0) n.natAbs 0 0

def ofFloat? : Binary64 → Option Magnitude
  | .nan _ => none
  | .infinite negative => some (.infinite negative)
  | .finite negative m e => some (ofProduct negative m e 0)

def ofDecimal? : Decimal → Option Magnitude
  | .nan .. => none
  | .infinite negative => some (.infinite negative)
  | .finite negative c e => some (ofProduct negative c e e)

end Magnitude

namespace Value

/-- Numbers are Booleans, integers, floats and decimals, and members that are numbers as well. -/
def isNumber (v : Value) : Bool :=
  match v.plain with
  | .bool _ | .int _ | .float _ | .decimal _ => true
  | _ => false

/-- What a number equals; NaN equals nothing. -/
def magnitude? (v : Value) : Option Magnitude :=
  match v.plain with
  | .bool b => some (Magnitude.ofInt (if b then 1 else 0))
  | .int n => some (Magnitude.ofInt n)
  | .float x => Magnitude.ofFloat? x
  | .decimal d => Magnitude.ofDecimal? d
  | _ => none

/-- Numbers that equal the same. -/
def sameNumber (a b : Value) : Bool :=
  match magnitude? a, magnitude? b with
  | some x, some y => x == y
  | _, _ => false

mutual

/-- Whether two values count as the same. Members that are nothing else are the same if they have
one class and one name. -/
def same (a b : Value) : Bool :=
  match a, b.plain with
  | .null, .null => true
  | .text s, .text t => s == t
  | .path p, .path q => p == q
  | .uuid u, .uuid w => u == w
  | .bytes a, .bytes b => a == b
  | .moment m, .moment n => m == n
  | .list xs, .list ys => sameItems xs ys
  | .tuple xs, .tuple ys => sameItems xs ys
  | .set xs, .set ys => xs.length == ys.length && subset xs ys
  | .set xs, .frozenset ys => xs.length == ys.length && subset xs ys
  | .frozenset xs, .set ys => xs.length == ys.length && subset xs ys
  | .frozenset xs, .frozenset ys => xs.length == ys.length && subset xs ys
  | .dict xs, .dict ys => xs.length == ys.length && subEntries xs ys
  | .float (.nan true), .float (.nan true) => true
  | .member c n v, w =>
    if c.holdsData then same v w
    else
      match w with
      | .member d m _ => c == d && n == m
      | _ => false
  | a, w => a.isNumber && w.isNumber && sameNumber a w

/-- Element by element. -/
def sameItems : List Value → List Value → Bool
  | [], [] => true
  | x :: xs, y :: ys => same x y && sameItems xs ys
  | _, _ => false

/-- Every element on the left has its like on the right. -/
def subset : List Value → List Value → Bool
  | [], _ => true
  | x :: xs, ys => ys.any (same x) && subset xs ys

/-- Every entry on the left has its like on the right. -/
def subEntries : List (Value × Value) → List (Value × Value) → Bool
  | [], _ => true
  | (k, v) :: xs, ys => ys.any (fun (k', v') => same k k' && same v v') && subEntries xs ys

end

theorem same_text_iff {s : String} {v : Value} : same (.text s) v = true ↔ v.plain = .text s := by
  unfold same
  cases v.plain with
  | text t => rw [beq_iff_eq, text.injEq, eq_comm]
  | _ => simp [isNumber, plain]

@[simp] theorem same_text (s t : String) : same (.text s) (.text t) = (s == t) := by
  rw [Bool.eq_iff_iff, same_text_iff, beq_iff_eq]
  simp [plain, eq_comm]

/-- Why a value cannot be an element of a set or a key. -/
inductive Unhashable where
  | ofKind (name : String)
  | signalingNan
  deriving DecidableEq, Repr

mutual

/-- Lists, sets and dictionaries change, so they are no keys, nor is a tuple that holds one. -/
def unhashable? : Value → Option Unhashable
  | .list _ => some (.ofKind "list")
  | .set _ => some (.ofKind "set")
  | .dict _ => some (.ofKind "dict")
  | .decimal d => if d.isSignaling then some .signalingNan else none
  | .tuple items => unhashableItem? items
  | .member c _ value =>
    if c.holdsData then
      match value with
      | .list _ | .set _ | .dict _ => some (.ofKind c.name)
      | _ => unhashable? value
    else none
  | _ => none

/-- The first reason among the elements. -/
def unhashableItem? : List Value → Option Unhashable
  | [] => none
  | v :: rest => (unhashable? v).or (unhashableItem? rest)

end

/-- A set with one more element, at the end if it is new. -/
def insertItem (items : List Value) (v : Value) : List Value :=
  if items.any (same v) then items else items ++ [v]

/-- The elements without repetitions, each at its first place. -/
def distinct (items : List Value) : List Value :=
  items.foldl insertItem []

/-- A dictionary with one more entry; a key that is there keeps its place and takes the value. -/
def putEntry (entries : List (Value × Value)) (key value : Value) : List (Value × Value) :=
  if entries.any (fun (k, _) => same key k) then
    entries.map fun (k, v) => if same key k then (k, value) else (k, v)
  else entries ++ [(key, value)]

/-- The dictionary of a list of entries, the last value of a repeated key counting. -/
def ofEntries (entries : List (Value × Value)) : Value :=
  .dict (entries.foldl (fun acc (k, v) => putEntry acc k v) [])

end Value

end LayeredConfig
