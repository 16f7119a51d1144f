import LayeredConfig.Chain.Basic
import Mathlib.Data.List.Basic

/-!
# Where the layers of a chain stand

A list of layers with distinct names splits around each name that it has. Around that split the
position of the name is a length, and each operation on the list is a concatenation.
-/

namespace LayeredConfig.Chain

variable {α : Type}

/-! ## Lists around a name -/

/-- A list falls apart into what stands before a layer of some name, that layer, and what stands
behind it; no other layer has the name. -/
structure SplitsAt (layers : List (Layer α)) (name : String) (front : List (Layer α))
    (x : Layer α) (back : List (Layer α)) : Prop where
  eq_append : layers = front ++ x :: back
  name_eq : x.name = name
  notMem_front : name ∉ front.map (·.name)
  notMem_back : name ∉ back.map (·.name)

theorem splitsAt_of_append {front back : List (Layer α)} {x : Layer α}
    (h : ((front ++ x :: back).map (·.name)).Nodup) :
    SplitsAt (front ++ x :: back) x.name front x back := by
  rw [List.map_append, List.map_cons, List.perm_middle.nodup_iff, List.nodup_cons,
    List.mem_append, not_or] at h
  exact ⟨rfl, rfl, h.1.1, h.1.2⟩

theorem exists_splitsAt {layers : List (Layer α)} {name : String}
    (h : (layers.map (·.name)).Nodup) (hname : name ∈ layers.map (·.name)) :
    ∃ front x back, SplitsAt layers name front x back := by
  obtain ⟨x, hx, rfl⟩ := List.mem_map.1 hname
  obtain ⟨front, back, rfl⟩ := List.append_of_mem hx
  exact ⟨front, x, back, splitsAt_of_append h⟩

theorem splitsAt_of_getElem? {layers : List (Layer α)} {i : Nat} {x : Layer α}
    (h : (layers.map (·.name)).Nodup) (hx : layers[i]? = some x) :
    SplitsAt layers x.name (layers.take i) x (layers.drop (i + 1)) := by
  obtain ⟨hi, rfl⟩ := List.getElem?_eq_some_iff.1 hx
  have hsplit : layers = layers.take i ++ layers[i] :: layers.drop (i + 1) := by
    rw [List.getElem_cons_drop, List.take_append_drop]
  have hmiddle := splitsAt_of_append (hsplit ▸ h)
  exact { hmiddle with eq_append := hsplit }

theorem SplitsAt.name_mem {layers front back : List (Layer α)} {name : String} {x : Layer α}
    (h : SplitsAt layers name front x back) : name ∈ layers.map (·.name) := by
  simp [h.eq_append, h.name_eq]

/-! ## Positions -/

theorem indexOf?_eq_none_iff {layers : List (Layer α)} {name : String} :
    indexOf? layers name = none ↔ name ∉ layers.map (·.name) := by
  simp [indexOf?]

theorem SplitsAt.indexOf?_eq {layers front back : List (Layer α)} {name : String} {x : Layer α}
    (h : SplitsAt layers name front x back) : indexOf? layers name = some front.length := by
  have hfront : indexOf? front name = none := indexOf?_eq_none_iff.2 h.notMem_front
  unfold indexOf? at hfront ⊢
  rw [h.eq_append, List.findIdx?_append, hfront, List.findIdx?_cons]
  simp [h.name_eq]

theorem SplitsAt.find?_eq {layers front back : List (Layer α)} {name : String} {x : Layer α}
    (h : SplitsAt layers name front x back) : layers.find? (·.name == name) = some x := by
  have hfront : front.find? (·.name == name) = none := by
    simpa using h.notMem_front
  rw [h.eq_append, List.find?_append, hfront, List.find?_cons]
  simp [h.name_eq]

/-! ## Layers taken out and put in -/

theorem without_append (front back : List (Layer α)) (name : String) :
    without (front ++ back) name = without front name ++ without back name :=
  List.filter_append front back

theorem without_eq_self {layers : List (Layer α)} {name : String}
    (h : name ∉ layers.map (·.name)) : without layers name = layers := by
  refine List.filter_eq_self.2 fun x hx => ?_
  simpa using fun hname => h (List.mem_map.2 ⟨x, hx, hname⟩)

theorem SplitsAt.without_eq {layers front back : List (Layer α)} {name : String} {x : Layer α}
    (h : SplitsAt layers name front x back) : without layers name = front ++ back := by
  have hx : without (x :: back) name = without back name := by
    simp [without, h.name_eq]
  rw [h.eq_append, without_append, hx, without_eq_self h.notMem_front,
    without_eq_self h.notMem_back]

theorem replaced_append (front back : List (Layer α)) (name : String) (l : Layer α) :
    replaced (front ++ back) name l = replaced front name l ++ replaced back name l :=
  List.filterMap_append

/-- Where no layer has the name to be replaced, only namesakes of the new layer go. -/
theorem replaced_eq_without {layers : List (Layer α)} {name : String} {l : Layer α}
    (h : name ∉ layers.map (·.name)) : replaced layers name l = without layers l.name := by
  -- Both go through the list once, and without `name` in it the first test always fails.
  rw [replaced, without, ← List.filterMap_eq_filter]
  refine List.filterMap_congr fun x hx => ?_
  have hne : x.name ≠ name := fun hname => h (List.mem_map.2 ⟨x, hx, hname⟩)
  by_cases hl : x.name = l.name
  · simp [hl, hl ▸ hne, Option.guard]
  · simp [hne, hl, Option.guard]

theorem SplitsAt.replaced_eq {layers front back : List (Layer α)} {name : String} {x : Layer α}
    (h : SplitsAt layers name front x back) (l : Layer α) :
    replaced layers name l = without front l.name ++ l :: without back l.name := by
  have hx : replaced (x :: back) name l = l :: replaced back name l := by
    simp [replaced, h.name_eq]
  rw [h.eq_append, replaced_append, hx, replaced_eq_without h.notMem_front,
    replaced_eq_without h.notMem_back]

/-- A layer put at a position stands between what comes before and what comes behind. -/
theorem insertAt_layers (c : Chain α) (l : Layer α) {front back : List (Layer α)}
    (h : without c.layers l.name = front ++ back) :
    (c.insertAt l front.length).layers = front ++ l :: back := by
  simp [insertAt, h]

end LayeredConfig.Chain
