import LayeredConfig.Proofs.Chain.Calls

/-!
# Joining — layers that come last

A layer that joins with the lowest precedence stands behind all others, whose order stays. Layers
with new names join in the order in which they come, and so do those that a chain adopts. To adopt the
same layers again changes nothing (`adopt_adopt`).
-/

namespace LayeredConfig.Chain

variable {α : Type}

theorem addLast_layers (c : Chain α) (l : Layer α) :
    (c.addLast l).1.layers = without c.layers l.name ++ [l] :=
  insertAt_layers c l (List.append_nil _).symm

theorem addLast_layers_of_new {c : Chain α} {l : Layer α} (h : l.name ∉ c.names) :
    (c.addLast l).1.layers = c.layers ++ [l] := by
  rw [addLast_layers, without_eq_self h]

theorem names_addLast_of_new {c : Chain α} {l : Layer α} (h : l.name ∉ c.names) :
    (c.addLast l).1.names = c.names ++ [l.name] := by
  rw [names, addLast_layers_of_new h, List.map_append]
  rfl

theorem addAll_cons (c : Chain α) (l : Layer α) (ls : List (Layer α)) :
    (c.addAll (l :: ls)).1 = ((c.addLast l).1.addAll ls).1 := by
  rw [addAll_fst, addAll_fst, List.foldl_cons]

theorem addAll_append (c : Chain α) (ls more : List (Layer α)) :
    (c.addAll (ls ++ more)).1 = ((c.addAll ls).1.addAll more).1 := by
  rw [addAll_fst, addAll_fst, addAll_fst, List.foldl_append]

theorem addAll_layers_of_new {c : Chain α} {ls : List (Layer α)}
    (h : (c.names ++ ls.map (·.name)).Nodup) : (c.addAll ls).1.layers = c.layers ++ ls := by
  -- For every chain: a layer that has joined is one more that the rest must differ from.
  induction ls generalizing c with
  | nil => exact (List.append_nil _).symm
  | cons l ls ih =>
    have hnew : l.name ∉ c.names := fun hmem =>
      (List.nodup_append.1 h).2.2 _ hmem _ List.mem_cons_self rfl
    have hnames := names_addLast_of_new hnew
    rw [addAll_cons, ih, addLast_layers_of_new hnew, List.append_assoc, List.singleton_append]
    rwa [hnames, List.append_assoc]

theorem adopt_layers (c other : Chain α) :
    (c.adopt other).1.layers = c.layers ++ other.layers.filter fun l => !c.contains l.name := by
  refine addAll_layers_of_new (List.nodup_append.2 ⟨c.nodup_names, ?_, ?_⟩)
  · exact other.nodup_names.sublist (List.filter_sublist.map _)
  · rintro name hname _ hother rfl
    obtain ⟨l, hl, rfl⟩ := List.mem_map.1 hother
    have hnew : ¬c.contains l.name = true := by simpa using (List.mem_filter.1 hl).2
    exact hnew ((c.contains_iff l.name).2 hname)

theorem layers_adopt (c other : Chain α) :
    (c.adopt other).1.layers = c.layers ++ other.layers.filter fun l => l.name ∉ c.names := by
  have hcontains (name : String) : (!c.contains name) = decide (name ∉ c.names) := by
    rw [Bool.eq_iff_iff, Bool.not_eq_true', Bool.eq_false_iff, decide_eq_true_iff, Ne, c.contains_iff]
  simp only [adopt_layers, hcontains]

theorem eq_of_layers_eq {c other : Chain α} (h : c.layers = other.layers) : c = other := by
  cases c
  cases other
  cases h
  rfl

/-- A chain that has all names adopts nothing. -/
theorem adopt_of_names_subset {c other : Chain α} (h : other.names ⊆ c.names) :
    (c.adopt other).1 = c := by
  have hnone : (other.layers.filter fun l => !c.contains l.name) = [] := by
    refine List.filter_eq_nil_iff.2 fun l hl => ?_
    have hname : l.name ∈ c.names := h (List.mem_map_of_mem hl)
    simpa using (c.contains_iff l.name).2 hname
  apply eq_of_layers_eq
  rw [adopt_layers, hnone, List.append_nil]

theorem names_subset_adopt (c other : Chain α) : other.names ⊆ (c.adopt other).1.names := by
  intro name hname
  obtain ⟨l, hl, rfl⟩ := List.mem_map.1 hname
  rw [names, adopt_layers, List.map_append, List.mem_append]
  by_cases hthere : l.name ∈ c.names
  · exact .inl hthere
  · refine .inr (List.mem_map_of_mem (List.mem_filter.2 ⟨hl, ?_⟩))
    simpa using (c.contains_iff l.name).not.2 hthere

theorem adopt_adopt (c other : Chain α) : ((c.adopt other).1.adopt other).1 = (c.adopt other).1 :=
  adopt_of_names_subset (names_subset_adopt c other)

theorem adopt_self (c : Chain α) : (c.adopt c).1 = c :=
  adopt_of_names_subset (List.Subset.refl c.names)

/-- What stands behind the names does not matter for adopting. -/
theorem map_adopt {β : Type} (f : α → β) (c other : Chain α) :
    (c.adopt other).1.map f = ((c.map f).adopt (other.map f)).1 := by
  have hcontains (name : String) : (c.map f).contains name = c.contains name := by
    rw [Bool.eq_iff_iff, contains_iff, contains_iff]
    simp [names, map, Function.comp_def]
  have hlayers : ((c.map f).adopt (other.map f)).1.layers = (c.map f).layers ++
      (other.map f).layers.filter fun l => !c.contains l.name := by
    simp only [adopt_layers, hcontains]
  apply eq_of_layers_eq
  rw [hlayers]
  simp only [map, adopt_layers, List.map_append, List.filter_map, Function.comp_def]

end LayeredConfig.Chain
