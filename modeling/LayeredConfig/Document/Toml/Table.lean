import LayeredConfig.Value.Basic

/-!
# TOML tables — what may be defined where

Tables are reached by paths of keys; a path through an array of tables goes on in its last table.
Declarations are remembered: a table is declared once, and inline tables and arrays are closed for
good, with all that is in them.
-/

namespace LayeredConfig.Toml

/-- A value of a document that is being built. -/
inductive Node where
  | leaf (v : Value)
  | table (entries : List (String × Node))
  | array (items : List Node)
  deriving Inhabited

abbrev Table : Type := List (String × Node)

mutual

/-- A finished node as a value. -/
def Node.toValue : Node → Value
  | .leaf v => v
  | .table entries => .dict (entryValues entries)
  | .array items => .list (itemValues items)

def entryValues : List (String × Node) → List (Value × Value)
  | [] => []
  | (key, node) :: rest => (.text key, node.toValue) :: entryValues rest

def itemValues : List Node → List Value
  | [] => []
  | node :: rest => node.toValue :: itemValues rest

end

/-- Whether a node is a collection. -/
def Node.isCollection : Node → Bool
  | .leaf _ => false
  | .table _ | .array _ => true

/-- A table with another node under a key that is there. -/
def setEntry (t : Table) (key : String) (node : Node) : Table :=
  t.map fun (k, old) => if k = key then (k, node) else (k, old)

/-- Changes the table at the end of a path. Tables that are missing on the way are made; `arrays`
tells whether the path may go through arrays of tables. -/
def changeAt? (arrays : Bool) (change : Table → Option Table) :
    (path : List String) → Table → Option Table
  | [], t => change t
  | key :: path, t =>
    match t.lookup key with
    | none => (changeAt? arrays change path []).map fun new => t ++ [(key, .table new)]
    | some (.table inner) =>
      (changeAt? arrays change path inner).map fun new => setEntry t key (.table new)
    | some (.array items) =>
      match arrays, items.getLast? with
      | true, some (.table inner) =>
        (changeAt? arrays change path inner).map fun new =>
          setEntry t key (.array (items.dropLast ++ [.table new]))
      | _, _ => none
    | some (.leaf _) => none

/-- Adds an entry to a table that has none of its key. -/
def addNew? (key : String) (node : Node) (t : Table) : Option Table :=
  if (t.lookup key).isSome then none else some (t ++ [(key, node)])

/-- Adds an empty table to the array under a key. -/
def addToArray? (key : String) (t : Table) : Option Table :=
  match t.lookup key with
  | none => some (t ++ [(key, .array [.table []])])
  | some (.array items) => some (setEntry t key (.array (items ++ [.table []])))
  | some _ => none

/-- What is remembered about a path. -/
inductive Mark where
  | declared (path : List String)
  | closed (path : List String)
  deriving DecidableEq, Repr

/-- Whether exactly this table was declared. -/
def isDeclared (marks : List Mark) (path : List String) : Bool :=
  marks.contains (.declared path)

/-- Whether a path leads into something closed. -/
def isClosed (marks : List Mark) (path : List String) : Bool :=
  marks.any fun
    | .closed closed => closed.isPrefixOf path
    | .declared _ => false

/-- Forgets all that was remembered of a path and below it. -/
def forget (marks : List Mark) (path : List String) : List Mark :=
  marks.filter fun
    | .closed other | .declared other => !path.isPrefixOf other

end LayeredConfig.Toml
