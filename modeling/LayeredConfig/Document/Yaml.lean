import LayeredConfig.Document.Yaml.Literal
import LayeredConfig.Document.Yaml.Node
import LayeredConfig.Value.Equality

/-!
# YAML documents — a parser for the common part of the format

Blocks and brackets, quoted and plain scalars and comments are read; tags, anchors, directives and
literal blocks are refused. A key that is repeated takes its last value. The key `<<` stands for
the entries of a table, or of several of which the first wins; they come before the others of its
table, which win over them. A text is one document or none, and none has no value.

Tables and lists are read level by level, so of several failures the one that is nested least
counts, and of those on one level the first.
-/

namespace LayeredConfig.Yaml

open Document (Failure)

/-- A failure, and how deep it is nested. -/
structure NestedFailure where
  depth : Nat
  failure : Failure
  deriving DecidableEq, Repr

abbrev Reading (α : Type) : Type := Except NestedFailure α

/-- Two results. Of two failures the one that is nested less counts, or else the first. -/
def both {α β : Type} (x : Reading α) (y : Reading β) : Reading (α × β) :=
  match x, y with
  | .ok a, .ok b => .ok (a, b)
  | .error e, .ok _ => .error e
  | .ok _, .error e => .error e
  | .error d, .error e => .error (if e.depth < d.depth then e else d)

/-- A list with one more element in front. -/
def consReading {α : Type} (x : Reading α) (xs : Reading (List α)) : Reading (List α) :=
  (both x xs).map fun (a, as) => a :: as

/-- The elements of two lists. -/
def appendReading {α : Type} (xs ys : Reading (List α)) : Reading (List α) :=
  (both xs ys).map fun (as, bs) => as ++ bs

/-- The value of a scalar. -/
def scalarValue (depth : Nat) (plain : Bool) (text : List Char) : Reading Value :=
  if plain then (valueOf text).mapError (⟨depth, ·⟩) else .ok (.text (String.ofList text))

namespace Node

/-- Whether a key stands for the entries of other tables. -/
def isMergeKey : Node → Bool
  | .scalar plain text => plain && text == mergeWord
  | _ => false

/-- The value of a key. Tables and lists change, so they are no keys. -/
def keyValue (depth : Nat) : Node → Reading Value
  | .scalar plain text =>
    if plain && text == valueWord then .ok (.text (String.ofList text))
    else scalarValue depth plain text
  | _ => .error ⟨depth, .malformed⟩

mutual

/-- Whether every merge key among some entries stands for a table or a list of tables. -/
def canMerge : List (Node × Node) → Bool
  | [] => true
  | (key, value) :: rest => (!key.isMergeKey || isMergeable value) && canMerge rest

/-- Whether a node is a table that can be merged, or a list of such. -/
def isMergeable : Node → Bool
  | .mapping entries => canMerge entries
  | .sequence items => areMergeable items
  | .scalar .. => false

def areMergeable : List Node → Bool
  | [] => true
  | .mapping entries :: rest => canMerge entries && areMergeable rest
  | _ :: _ => false

end

mutual

/-- The value of a node. -/
def value (depth : Nat) : Node → Reading Value
  | .scalar plain text => scalarValue depth plain text
  | .sequence items => (itemValues (depth + 1) items).map .list
  | .mapping entries =>
    if canMerge entries then
      let (merged, own) := entryValues (depth + 1) entries
      (appendReading merged own).map Value.ofEntries
    else .error ⟨depth + 1, .malformed⟩

def itemValues (depth : Nat) : List Node → Reading (List Value)
  | [] => .ok []
  | item :: rest => consReading (value depth item) (itemValues depth rest)

/-- The entries that merge keys stand for, and the others. -/
def entryValues (depth : Nat) :
    List (Node × Node) → Reading (List (Value × Value)) × Reading (List (Value × Value))
  | [] => (.ok [], .ok [])
  | (key, node) :: rest =>
    let (merged, own) := entryValues depth rest
    if key.isMergeKey then (appendReading (mergedValues depth node) merged, own)
    else (merged, consReading (both (keyValue depth key) (value depth node)) own)

/-- All entries of a table that is merged, or of several, from the last on. -/
def mergedValues (depth : Nat) : Node → Reading (List (Value × Value))
  | .mapping entries =>
    let (merged, own) := entryValues depth entries
    appendReading merged own
  | .sequence items => mergedItems depth items
  | .scalar .. => .ok []

def mergedItems (depth : Nat) : List Node → Reading (List (Value × Value))
  | [] => .ok []
  | .mapping entries :: rest =>
    let (merged, own) := entryValues depth entries
    appendReading (mergedItems depth rest) (appendReading merged own)
  | _ :: rest => mergedItems depth rest

end

end Node

/-- The value that a document holds. -/
def read : Document.Parser := fun bytes => do
  let text ← Failure.ofOption (textOf? bytes)
  let ts ← tokensOf text
  let node ← Failure.ofOption (Node.ofTokens? ts)
  (node.value 0).mapError (·.failure)

end LayeredConfig.Yaml
