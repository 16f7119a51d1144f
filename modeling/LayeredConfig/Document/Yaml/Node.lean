import LayeredConfig.Document.Yaml.Token

/-!
# YAML nodes — the tree of a text before its scalars are read

A table lists its entries as they are written, repeated and special keys among them. What stands
for nothing is a plain scalar without characters.
-/

namespace LayeredConfig.Yaml

inductive Node where
  | scalar (plain : Bool) (text : List Char)
  | sequence (items : List Node)
  | mapping (entries : List (Node × Node))
  deriving Repr, Inhabited

namespace Node

def absent : Node := .scalar true []

/-- Where a node may stand: in a block or in brackets, and whether items without an indent of their
own may begin. -/
inductive Position where
  | block
  | blockOrItems
  | flow
  deriving DecidableEq

/-- The tokens before which an entry of a block has no node. -/
def endsBlockPart (t : Token) : Bool :=
  t == .key || t == .value || t == .blockEnd

/-- The tokens before which an item of a block has no node. -/
def endsItem (t : Token) : Bool :=
  t == .blockItem || t == .blockEnd

/-- The tokens after a comma. -/
def skipSeparator? : List Token → Option (List Token)
  | .flowSeparator :: rest => some rest
  | _ => none

mutual

/-- A node at the front. -/
def take? (place : Position) : (fuel : Nat) → List Token → Option (Node × List Token)
  | 0, _ => none
  | fuel + 1, ts =>
    match ts with
    | .scalar plain text :: rest => some (.scalar plain text, rest)
    | .flowSequence :: rest =>
      (takeFlowItems? true fuel rest).map fun (items, after) => (.sequence items, after)
    | .flowMapping :: rest =>
      (takeFlowEntries? true fuel rest).map fun (entries, after) => (.mapping entries, after)
    | .blockSequence :: rest =>
      if place = .flow then none
      else (takeItems? true fuel rest).map fun (items, after) => (.sequence items, after)
    | .blockMapping :: rest =>
      if place = .flow then none
      else (takeEntries? fuel rest).map fun (entries, after) => (.mapping entries, after)
    | .blockItem :: _ =>
      if place = .blockOrItems then
        (takeItems? false fuel ts).map fun (items, after) => (.sequence items, after)
      else none
    | _ => none

/-- A node, or none before certain tokens. -/
def takeOptional? (ends : Token → Bool) (place : Position) :
    (fuel : Nat) → List Token → Option (Node × List Token)
  | 0, _ => none
  | fuel + 1, ts =>
    if ts.head?.any ends then some (absent, ts) else take? place fuel ts

/-- The node after the mark of a value; none if there is no mark. -/
def takeMarked? (ends : Token → Bool) (place : Position) :
    (fuel : Nat) → List Token → Option (Node × List Token)
  | 0, _ => none
  | fuel + 1, ts =>
    match ts with
    | .value :: rest => takeOptional? ends place fuel rest
    | _ => some (absent, ts)

/-- The items of a block. Items with an indent of their own run to the end of the block, others to
the next token of another kind. -/
def takeItems? (indented : Bool) : (fuel : Nat) → List Token → Option (List Node × List Token)
  | 0, _ => none
  | fuel + 1, ts =>
    match ts with
    | .blockItem :: rest => do
      let ends (t : Token) := endsItem t || (!indented && (t == .key || t == .value))
      let (item, rest) ← takeOptional? ends .block fuel rest
      let (items, after) ← takeItems? indented fuel rest
      some (item :: items, after)
    | .blockEnd :: after => some ([], if indented then after else ts)
    | _ => if indented then none else some ([], ts)

/-- The entries of a block. -/
def takeEntries? : (fuel : Nat) → List Token → Option (List (Node × Node) × List Token)
  | 0, _ => none
  | fuel + 1, ts =>
    match ts with
    | .key :: rest => do
      let (key, rest) ← takeOptional? endsBlockPart .blockOrItems fuel rest
      let (value, rest) ← takeMarked? endsBlockPart .blockOrItems fuel rest
      let (entries, after) ← takeEntries? fuel rest
      some ((key, value) :: entries, after)
    | .blockEnd :: after => some ([], after)
    | _ => none

/-- The items in brackets; a pair that stands among them is a table of one entry. -/
def takeFlowItems? (isFirst : Bool) : (fuel : Nat) → List Token → Option (List Node × List Token)
  | 0, _ => none
  | fuel + 1, ts =>
    let ends (t : Token) := t == .flowSeparator || t == .flowSequenceEnd
    match if isFirst || ts.head? = some .flowSequenceEnd then some ts else skipSeparator? ts with
    | none => none
    | some (.flowSequenceEnd :: after) => some ([], after)
    | some (.key :: rest) => do
      let (key, rest) ← takeOptional? (fun t => t == .value || ends t) .flow fuel rest
      let (value, rest) ← takeMarked? ends .flow fuel rest
      let (items, after) ← takeFlowItems? false fuel rest
      some (.mapping [(key, value)] :: items, after)
    | some ts => do
      let (item, rest) ← take? .flow fuel ts
      let (items, after) ← takeFlowItems? false fuel rest
      some (item :: items, after)

/-- The entries in braces; a node that stands alone is a key of nothing. -/
def takeFlowEntries? (isFirst : Bool) :
    (fuel : Nat) → List Token → Option (List (Node × Node) × List Token)
  | 0, _ => none
  | fuel + 1, ts =>
    let ends (t : Token) := t == .flowSeparator || t == .flowMappingEnd
    match if isFirst || ts.head? = some .flowMappingEnd then some ts else skipSeparator? ts with
    | none => none
    | some (.flowMappingEnd :: after) => some ([], after)
    | some (.key :: rest) => do
      let (key, rest) ← takeOptional? (fun t => t == .value || ends t) .flow fuel rest
      let (value, rest) ← takeMarked? ends .flow fuel rest
      let (entries, after) ← takeFlowEntries? false fuel rest
      some ((key, value) :: entries, after)
    | some ts => do
      let (key, rest) ← take? .flow fuel ts
      let (entries, after) ← takeFlowEntries? false fuel rest
      some ((key, absent) :: entries, after)

end

/-- Whether only marks of ends are left. -/
def isOver (ts : List Token) : Bool :=
  ts.all (· == .documentEnd)

/-- The node of a text of at most one document. -/
def ofTokens? (ts : List Token) : Option Node := do
  let fuel := 4 * ts.length + 4
  let (node, rest) ←
    match ts with
    | [] => some (absent, [])
    | .documentStart :: rest =>
      let ends (t : Token) := t == .documentStart || t == .documentEnd
      if rest.isEmpty then some (absent, []) else takeOptional? ends .block fuel rest
    | _ => take? .block fuel ts
  if isOver rest then some node else none

end Node

end LayeredConfig.Yaml
