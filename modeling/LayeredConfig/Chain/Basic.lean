import LayeredConfig.Event

/-!
# Chains of layers

A chain lists layers from the one that wins to the one that loses. Their names are distinct: a
layer that joins a chain takes the place of its namesake. Every change is one event.
-/

namespace LayeredConfig

/-- A name and what stands behind it. -/
structure Layer (α : Type) where
  name : String
  content : α
  deriving Repr, Inhabited

/-- Layers with distinct names, in order of precedence. -/
structure Chain (α : Type) where
  layers : List (Layer α)
  nodup_names : (layers.map (·.name)).Nodup := by simp
  deriving Repr

/-- A list of texts as it is shown. -/
def quotedNames (names : List String) : String :=
  "[" ++ ", ".intercalate (names.map Text.quoted) ++ "]"

namespace Chain

variable {α β : Type}

/-- The chain without layers. -/
def empty : Chain α := ⟨[], List.nodup_nil⟩

instance : Inhabited (Chain α) := ⟨empty⟩

def names (c : Chain α) : List String := c.layers.map (·.name)

def size (c : Chain α) : Nat := c.layers.length

/-- The position of the first layer with a name. -/
def indexOf? (layers : List (Layer α)) (name : String) : Option Nat :=
  layers.findIdx? (·.name == name)

def precedence? (c : Chain α) (name : String) : Option Nat := indexOf? c.layers name

def contains (c : Chain α) (name : String) : Bool := (c.precedence? name).isSome

def get? (c : Chain α) (name : String) : Option (Layer α) := c.layers.find? (·.name == name)

/-- The same names over other contents. -/
def map (f : α → β) (c : Chain α) : Chain β where
  layers := c.layers.map fun l => ⟨l.name, f l.content⟩
  nodup_names := by simpa [Function.comp_def] using c.nodup_names

/-- The layers but the one with a name. -/
def without (layers : List (Layer α)) (name : String) : List (Layer α) :=
  layers.filter (·.name != name)

theorem name_notMem_without (layers : List (Layer α)) (name : String) :
    name ∉ (without layers name).map (·.name) := by
  simp [without]

theorem nodup_without {layers : List (Layer α)} (h : (layers.map (·.name)).Nodup)
    (name : String) : ((without layers name).map (·.name)).Nodup :=
  h.sublist (List.filter_sublist.map _)

/-- A layer put between the layers of a list that has none of its name keeps names distinct. -/
theorem nodup_insert {layers : List (Layer α)} {l : Layer α} (h : (layers.map (·.name)).Nodup)
    (hl : l.name ∉ layers.map (·.name)) (i : Nat) :
    ((layers.take i ++ l :: layers.drop i).map (·.name)).Nodup := by
  have hsplit : layers.map (·.name) =
      (layers.take i).map (·.name) ++ (layers.drop i).map (·.name) := by
    rw [← List.map_append, List.take_append_drop]
  rw [hsplit] at h hl
  rw [List.map_append, List.map_cons]
  exact (List.perm_middle.nodup_iff).2 (List.nodup_cons.2 ⟨hl, h⟩)

/-- The chain with a layer at a position among the others; its namesake is gone. -/
def insertAt (c : Chain α) (l : Layer α) (position : Nat) : Chain α where
  layers :=
    (without c.layers l.name).take position ++ l :: (without c.layers l.name).drop position
  nodup_names := nodup_insert (nodup_without c.nodup_names _) (name_notMem_without _ _) _

/-- A layer joins a chain with the highest precedence. -/
def addFirst (c : Chain α) (l : Layer α) : Chain α × Event :=
  (c.insertAt l 0, .layerAdded l.name 0 none)

/-- A layer joins a chain with the lowest precedence. -/
def addLast (c : Chain α) (l : Layer α) : Chain α × Event :=
  let position := (without c.layers l.name).length
  (c.insertAt l position, .layerAdded l.name position none)

/-- A layer joins a chain next to another one, `offset` places after it. -/
def addNextTo (c : Chain α) (anchor : String) (l : Layer α) (offset : Nat) :
    Except Error (Chain α × Event) :=
  if anchor = l.name then .error (.relativeToItself l.name)
  else
    match indexOf? (without c.layers l.name) anchor with
    | none => .error (.layerNotFound anchor)
    | some i => .ok (c.insertAt l (i + offset), .layerAdded l.name (i + offset) (some anchor))

/-- A layer joins a chain directly before another one. -/
def addBefore (c : Chain α) (anchor : String) (l : Layer α) : Except Error (Chain α × Event) :=
  c.addNextTo anchor l 0

/-- A layer joins a chain directly after another one. -/
def addAfter (c : Chain α) (anchor : String) (l : Layer α) : Except Error (Chain α × Event) :=
  c.addNextTo anchor l 1

/-- Takes the layer with a name out of a chain. -/
def remove (c : Chain α) (name : String) : Option (Layer α × Chain α × Event) :=
  match c.get? name, c.precedence? name with
  | some l, some i =>
    some (l, ⟨without c.layers name, nodup_without c.nodup_names name⟩, .layerRemoved name i)
  | _, _ => none

/-- The layers with `l` in the slot of `name`, without another one of the name of `l`. -/
def replaced (layers : List (Layer α)) (name : String) (l : Layer α) : List (Layer α) :=
  layers.filterMap fun existing =>
    if existing.name = name then some l
    else if existing.name = l.name then none
    else some existing

theorem mem_names_replaced {layers : List (Layer α)} {name x : String} {l : Layer α}
    (h : x ∈ (replaced layers name l).map (·.name)) :
    (x = l.name ∧ name ∈ layers.map (·.name)) ∨
      (x ≠ l.name ∧ x ≠ name ∧ x ∈ layers.map (·.name)) := by
  obtain ⟨y, hy, rfl⟩ := List.mem_map.1 h
  obtain ⟨z, hz, hzy⟩ := List.mem_filterMap.1 hy
  have hmem : z.name ∈ layers.map (·.name) := List.mem_map_of_mem hz
  split at hzy
  next hn =>
    cases hzy
    exact .inl ⟨rfl, hn ▸ hmem⟩
  next hn =>
    split at hzy
    next => cases hzy
    next hl =>
      cases hzy
      exact .inr ⟨hl, hn, hmem⟩

theorem nodup_replaced {layers : List (Layer α)} (h : (layers.map (·.name)).Nodup)
    (name : String) (l : Layer α) : ((replaced layers name l).map (·.name)).Nodup := by
  induction layers with
  | nil => exact List.nodup_nil
  | cons first rest ih =>
    obtain ⟨hfirst, hrest⟩ := List.nodup_cons.1 h
    unfold replaced
    rw [List.filterMap_cons]
    split
    next => exact ih hrest
    next y hy =>
      rw [List.map_cons, List.nodup_cons]
      refine ⟨fun hmem => ?_, ih hrest⟩
      have hcases := mem_names_replaced hmem
      split at hy
      next hn =>
        cases hy
        rcases hcases with ⟨_, hin⟩ | ⟨hne, _⟩
        · exact hfirst (by simpa [hn] using hin)
        · exact hne rfl
      next hn =>
        split at hy
        next => cases hy
        next hl =>
          cases hy
          rcases hcases with ⟨heq, _⟩ | ⟨_, _, hin⟩
          · exact hl heq
          · exact hfirst hin

/-- Puts a layer into the slot of the one with a name. -/
def replace (c : Chain α) (name : String) (l : Layer α) : Except Error (Chain α × Event) :=
  if c.contains name then
    .ok (⟨replaced c.layers name l, nodup_replaced c.nodup_names name l⟩,
      .layerReplaced name l.name)
  else .error (.layerNotFound name)

/-- Layers join a chain one after the other, each with the lowest precedence. -/
def addAll (c : Chain α) (ls : List (Layer α)) : Chain α × List Event :=
  ls.foldl (fun (c, events) l =>
    let (c, event) := c.addLast l
    (c, events ++ [event])) (c, [])

/-- The layers of another chain whose names are new join this one, with lower precedence. -/
def adopt (c other : Chain α) : Chain α × List Event :=
  c.addAll (other.layers.filter fun l => !c.contains l.name)

/-- A chain as the call that makes it. -/
def quoted (c : Chain α) : String :=
  "SourceChain(" ++ quotedNames c.names ++ ")"

end Chain

end LayeredConfig
