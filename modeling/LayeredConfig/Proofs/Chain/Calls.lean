import LayeredConfig.Action
import LayeredConfig.Proofs.Chain.Positions

/-!
# Calls — a chain as an ordered list of layers with distinct names

A chain is used through calls that change it or fail. `Step` says by rules what each call does to
a plain list of layers; the main statement `chain_refines_list` says that a chain goes exactly the
steps of that list, whatever is called on it and in whatever order.
-/

namespace LayeredConfig.Chain

variable {α : Type}

/-- A call that can change a chain. -/
inductive Call (α : Type) where
  | addFirst (l : Layer α)
  | addLast (l : Layer α)
  | addBefore (anchor : String) (l : Layer α)
  | addAfter (anchor : String) (l : Layer α)
  | remove (name : String)
  | replace (name : String) (l : Layer α)

/-- What a call gives back: a failure, the layer it took out, or nothing. -/
abbrev Answer (α : Type) : Type := Except Error (Option (Layer α))

namespace Call

/-- A change that may fail, and then is not made. -/
def change (f : Chain α → Except Error (Chain α × Event)) : Action (Chain α) (Option (Layer α)) :=
  fun c =>
    match f c with
    | .ok (changed, event) => ⟨changed, [event], .ok none⟩
    | .error e => ⟨c, [], .error e⟩

/-- What a call does to a chain, what it reports and what it answers. -/
def perform : Call α → Action (Chain α) (Option (Layer α))
  | .addFirst l => change fun c => .ok (c.addFirst l)
  | .addLast l => change fun c => .ok (c.addLast l)
  | .addBefore anchor l => change fun c => c.addBefore anchor l
  | .addAfter anchor l => change fun c => c.addAfter anchor l
  | .replace name l => change fun c => c.replace name l
  | .remove name => fun c =>
    match c.remove name with
    | some (l, changed, event) => ⟨changed, [event], .ok (some l)⟩
    | none => ⟨c, [], .ok none⟩

/-- The chain after some calls, with the answers to them. A failure does not end the sequence. -/
def performAll : List (Call α) → Chain α → Chain α × List (Answer α)
  | [], c => (c, [])
  | call :: calls, c =>
    let done := call.perform c
    let (last, answers) := performAll calls done.state
    (last, done.result :: answers)

end Call

/-! ## The list that a chain is -/

/-- The layers that keep their places when `l` comes. -/
def others (l : Layer α) (layers : List (Layer α)) : List (Layer α) :=
  layers.filter (·.name ≠ l.name)

/-- What a call does to a list of layers: its answer and the list after it. What fails, and what
looks in vain for a layer to remove, leaves the list as it is. -/
inductive Step (layers : List (Layer α)) : Call α → Answer α → List (Layer α) → Prop where
  | addFirst (l : Layer α) : Step layers (.addFirst l) (.ok none) (l :: others l layers)
  | addLast (l : Layer α) : Step layers (.addLast l) (.ok none) (others l layers ++ [l])
  | addBefore {anchor : String} {l x : Layer α} {front back : List (Layer α)}
      (hne : anchor ≠ l.name) (hsplit : SplitsAt (others l layers) anchor front x back) :
      Step layers (.addBefore anchor l) (.ok none) (front ++ l :: x :: back)
  | addAfter {anchor : String} {l x : Layer α} {front back : List (Layer α)}
      (hne : anchor ≠ l.name) (hsplit : SplitsAt (others l layers) anchor front x back) :
      Step layers (.addAfter anchor l) (.ok none) (front ++ x :: l :: back)
  | remove {name : String} {x : Layer α} {front back : List (Layer α)}
      (hsplit : SplitsAt layers name front x back) :
      Step layers (.remove name) (.ok (some x)) (front ++ back)
  | replace {name : String} {x : Layer α} {front back : List (Layer α)} (l : Layer α)
      (hsplit : SplitsAt layers name front x back) :
      Step layers (.replace name l) (.ok none) (others l front ++ l :: others l back)
  | removeAbsent {name : String} (habsent : name ∉ layers.map (·.name)) :
      Step layers (.remove name) (.ok none) layers
  | beforeItself (l : Layer α) :
      Step layers (.addBefore l.name l) (.error (.relativeToItself l.name)) layers
  | afterItself (l : Layer α) :
      Step layers (.addAfter l.name l) (.error (.relativeToItself l.name)) layers
  | beforeAbsent {anchor : String} {l : Layer α} (hne : anchor ≠ l.name)
      (habsent : anchor ∉ layers.map (·.name)) :
      Step layers (.addBefore anchor l) (.error (.layerNotFound anchor)) layers
  | afterAbsent {anchor : String} {l : Layer α} (hne : anchor ≠ l.name)
      (habsent : anchor ∉ layers.map (·.name)) :
      Step layers (.addAfter anchor l) (.error (.layerNotFound anchor)) layers
  | replaceAbsent {name : String} (l : Layer α) (habsent : name ∉ layers.map (·.name)) :
      Step layers (.replace name l) (.error (.layerNotFound name)) layers

/-- Steps one after the other, with their answers. -/
inductive Runs : List (Layer α) → List (Call α) → List (Answer α) → List (Layer α) → Prop where
  | nil (layers : List (Layer α)) : Runs layers [] [] layers
  | cons {layers next last : List (Layer α)} {call : Call α} {calls : List (Call α)}
      {answer : Answer α} {answers : List (Answer α)} (hstep : Step layers call answer next)
      (hrest : Runs next calls answers last) :
      Runs layers (call :: calls) (answer :: answers) last

/-! ## One call -/

theorem others_eq_without (l : Layer α) (layers : List (Layer α)) :
    others l layers = without layers l.name :=
  List.filter_congr fun x _ => by simp [bne, beq_eq_decide]

/-- Only the namesakes of a layer are missing among the others. -/
theorem mem_names_of_mem_others {l : Layer α} {layers : List (Layer α)} {name : String}
    (h : name ∈ (others l layers).map (·.name)) : name ∈ layers.map (·.name) :=
  (List.filter_sublist.map _).subset h

theorem addNextTo_of_splitsAt (c : Chain α) {anchor : String} {l x : Layer α}
    {front back : List (Layer α)} (offset : Nat) (hne : anchor ≠ l.name)
    (h : SplitsAt (others l c.layers) anchor front x back) :
    c.addNextTo anchor l offset =
      .ok (c.insertAt l (front.length + offset),
        .layerAdded l.name (front.length + offset) (some anchor)) := by
  rw [others_eq_without] at h
  rw [addNextTo, if_neg hne, h.indexOf?_eq]

theorem addBefore_of_splitsAt (c : Chain α) {anchor : String} {l x : Layer α}
    {front back : List (Layer α)} (hne : anchor ≠ l.name)
    (h : SplitsAt (others l c.layers) anchor front x back) :
    ∃ changed, c.addBefore anchor l =
        .ok (changed, .layerAdded l.name front.length (some anchor)) ∧
      changed.layers = front ++ l :: x :: back := by
  have hsplit : without c.layers l.name = front ++ x :: back :=
    (others_eq_without l c.layers).symm.trans h.eq_append
  exact ⟨_, addNextTo_of_splitsAt c 0 hne h, insertAt_layers c l hsplit⟩

theorem addAfter_of_splitsAt (c : Chain α) {anchor : String} {l x : Layer α}
    {front back : List (Layer α)} (hne : anchor ≠ l.name)
    (h : SplitsAt (others l c.layers) anchor front x back) :
    ∃ changed, c.addAfter anchor l =
        .ok (changed, .layerAdded l.name (front.length + 1) (some anchor)) ∧
      changed.layers = front ++ x :: l :: back := by
  have hsplit : without c.layers l.name = (front ++ [x]) ++ back := by
    rw [← others_eq_without, h.eq_append, List.append_assoc, List.singleton_append]
  refine ⟨_, addNextTo_of_splitsAt c 1 hne h, ?_⟩
  simpa using insertAt_layers c l hsplit

theorem addNextTo_of_absent (c : Chain α) {anchor : String} {l : Layer α} (offset : Nat)
    (hne : anchor ≠ l.name) (h : anchor ∉ c.layers.map (·.name)) :
    c.addNextTo anchor l offset = .error (.layerNotFound anchor) := by
  have hnone : indexOf? (without c.layers l.name) anchor = none := by
    rw [← others_eq_without]
    exact indexOf?_eq_none_iff.2 fun hmem => h (mem_names_of_mem_others hmem)
  rw [addNextTo, if_neg hne, hnone]

theorem addNextTo_itself (c : Chain α) (l : Layer α) (offset : Nat) :
    c.addNextTo l.name l offset = .error (.relativeToItself l.name) :=
  if_pos rfl

theorem remove_of_splitsAt (c : Chain α) {name : String} {x : Layer α}
    {front back : List (Layer α)} (h : SplitsAt c.layers name front x back) :
    ∃ changed, c.remove name = some (x, changed, .layerRemoved name front.length) ∧
      changed.layers = front ++ back := by
  refine ⟨⟨without c.layers name, nodup_without c.nodup_names name⟩, ?_, h.without_eq⟩
  rw [remove, get?, h.find?_eq, precedence?, h.indexOf?_eq]

theorem remove_of_absent (c : Chain α) {name : String} (h : name ∉ c.layers.map (·.name)) :
    c.remove name = none := by
  rw [remove, precedence?, indexOf?_eq_none_iff.2 h]
  cases c.get? name <;> rfl

theorem contains_iff (c : Chain α) (name : String) : c.contains name = true ↔ name ∈ c.names := by
  rw [contains, precedence?, Option.isSome_iff_ne_none, ne_eq, indexOf?_eq_none_iff, not_not, names]

theorem replace_of_splitsAt (c : Chain α) {name : String} {x : Layer α}
    {front back : List (Layer α)} (l : Layer α) (h : SplitsAt c.layers name front x back) :
    ∃ changed, c.replace name l = .ok (changed, .layerReplaced name l.name) ∧
      changed.layers = others l front ++ l :: others l back := by
  refine ⟨⟨replaced c.layers name l, nodup_replaced c.nodup_names name l⟩, ?_, ?_⟩
  · rw [replace, if_pos ((contains_iff c name).2 h.name_mem)]
  · rw [others_eq_without, others_eq_without]
    exact h.replaced_eq l

theorem replace_of_absent (c : Chain α) {name : String} (l : Layer α)
    (h : name ∉ c.layers.map (·.name)) : c.replace name l = .error (.layerNotFound name) :=
  if_neg fun hcontains => h ((contains_iff c name).1 hcontains)

/-- A rule for a list tells what the call does to the chain that has this list. -/
theorem perform_of_step {c : Chain α} {call : Call α} {answer : Answer α}
    {layers : List (Layer α)} (h : Step c.layers call answer layers) :
    (call.perform c).result = answer ∧ (call.perform c).state.layers = layers := by
  cases h with
  | addFirst l =>
    have hsplit : without c.layers l.name = [] ++ others l c.layers :=
      (others_eq_without l c.layers).symm
    exact ⟨rfl, insertAt_layers c l hsplit⟩
  | addLast l =>
    -- Nothing comes behind the last place.
    have hsplit : without c.layers l.name = without c.layers l.name ++ [] :=
      (List.append_nil _).symm
    exact ⟨rfl, others_eq_without l c.layers ▸ insertAt_layers c l hsplit⟩
  | addBefore hne hsplit =>
    obtain ⟨changed, hadd, hlayers⟩ := addBefore_of_splitsAt c hne hsplit
    simp [Call.perform, Call.change, hadd, hlayers]
  | addAfter hne hsplit =>
    obtain ⟨changed, hadd, hlayers⟩ := addAfter_of_splitsAt c hne hsplit
    simp [Call.perform, Call.change, hadd, hlayers]
  | remove hsplit =>
    obtain ⟨changed, hremove, hlayers⟩ := remove_of_splitsAt c hsplit
    simp [Call.perform, hremove, hlayers]
  | replace l hsplit =>
    obtain ⟨changed, hreplace, hlayers⟩ := replace_of_splitsAt c l hsplit
    simp [Call.perform, Call.change, hreplace, hlayers]
  | removeAbsent habsent => simp [Call.perform, remove_of_absent c habsent]
  | beforeItself l => simp [Call.perform, Call.change, addBefore, addNextTo_itself]
  | afterItself l => simp [Call.perform, Call.change, addAfter, addNextTo_itself]
  | beforeAbsent hne habsent =>
    simp [Call.perform, Call.change, addBefore, addNextTo_of_absent c 0 hne habsent]
  | afterAbsent hne habsent =>
    simp [Call.perform, Call.change, addAfter, addNextTo_of_absent c 1 hne habsent]
  | replaceAbsent l habsent => simp [Call.perform, Call.change, replace_of_absent c l habsent]

/-- An anchor is the layer itself, is absent, or stands among the others. -/
theorem anchor_cases {layers : List (Layer α)} (h : (layers.map (·.name)).Nodup)
    (anchor : String) (l : Layer α) :
    anchor = l.name ∨ (anchor ≠ l.name ∧ anchor ∉ layers.map (·.name)) ∨
      (anchor ≠ l.name ∧ ∃ front x back, SplitsAt (others l layers) anchor front x back) := by
  by_cases hne : anchor = l.name
  · exact .inl hne
  by_cases hanchor : anchor ∈ layers.map (·.name)
  · obtain ⟨x, hx, rfl⟩ := List.mem_map.1 hanchor
    have hkept : x ∈ others l layers := List.mem_filter.2 ⟨hx, by simpa using hne⟩
    have hnodup : ((others l layers).map (·.name)).Nodup := h.sublist (List.filter_sublist.map _)
    exact .inr (.inr ⟨hne, exists_splitsAt hnodup (List.mem_map_of_mem hkept)⟩)
  · exact .inr (.inl ⟨hne, hanchor⟩)

/-- Some rule applies to every call, whether the names in it are there or not. -/
theorem exists_step (c : Chain α) (call : Call α) :
    ∃ answer layers, Step c.layers call answer layers := by
  cases call with
  | addFirst l => exact ⟨_, _, .addFirst l⟩
  | addLast l => exact ⟨_, _, .addLast l⟩
  | addBefore anchor l =>
    obtain rfl | ⟨hne, habsent⟩ | ⟨hne, front, x, back, hsplit⟩ :=
      anchor_cases c.nodup_names anchor l
    · exact ⟨_, _, .beforeItself l⟩
    · exact ⟨_, _, .beforeAbsent hne habsent⟩
    · exact ⟨_, _, .addBefore hne hsplit⟩
  | addAfter anchor l =>
    obtain rfl | ⟨hne, habsent⟩ | ⟨hne, front, x, back, hsplit⟩ :=
      anchor_cases c.nodup_names anchor l
    · exact ⟨_, _, .afterItself l⟩
    · exact ⟨_, _, .afterAbsent hne habsent⟩
    · exact ⟨_, _, .addAfter hne hsplit⟩
  | remove name =>
    by_cases hname : name ∈ c.layers.map (·.name)
    · obtain ⟨front, x, back, hsplit⟩ := exists_splitsAt c.nodup_names hname
      exact ⟨_, _, .remove hsplit⟩
    · exact ⟨_, _, .removeAbsent hname⟩
  | replace name l =>
    by_cases hname : name ∈ c.layers.map (·.name)
    · obtain ⟨front, x, back, hsplit⟩ := exists_splitsAt c.nodup_names hname
      exact ⟨_, _, .replace l hsplit⟩
    · exact ⟨_, _, .replaceAbsent l hname⟩

/-- A call does to a chain what the one rule that applies to its list says. -/
theorem step_iff {c : Chain α} {call : Call α} {answer : Answer α} {layers : List (Layer α)} :
    Step c.layers call answer layers ↔
      (call.perform c).result = answer ∧ (call.perform c).state.layers = layers := by
  refine ⟨perform_of_step, ?_⟩
  rintro ⟨rfl, rfl⟩
  -- The rule that applies already says what the call does, so it is the one for this outcome.
  obtain ⟨answer, layers, hstep⟩ := exists_step c call
  obtain ⟨hanswer, hlayers⟩ := perform_of_step hstep
  exact hanswer ▸ hlayers ▸ hstep

/-! ## Many calls -/

theorem runs_iff {c : Chain α} {calls : List (Call α)} {answers : List (Answer α)}
    {layers : List (Layer α)} :
    Runs c.layers calls answers layers ↔
      (Call.performAll calls c).2 = answers ∧ (Call.performAll calls c).1.layers = layers := by
  -- On the calls, for all chains: each call hands the chain it leaves to the next one.
  induction calls generalizing c answers layers with
  | nil =>
    constructor
    · rintro ⟨⟩
      exact ⟨rfl, rfl⟩
    · rintro ⟨rfl, rfl⟩
      exact .nil _
  | cons call calls ih =>
    constructor
    · rintro (_ | ⟨hstep, hrest⟩)
      obtain ⟨rfl, rfl⟩ := step_iff.1 hstep
      obtain ⟨rfl, rfl⟩ := ih.1 hrest
      exact ⟨rfl, rfl⟩
    · rintro ⟨rfl, rfl⟩
      exact .cons (step_iff.2 ⟨rfl, rfl⟩) (ih.2 ⟨rfl, rfl⟩)

theorem addAll_fst (c : Chain α) (ls : List (Layer α)) :
    (c.addAll ls).1 = ls.foldl (fun c l => (c.addLast l).1) c :=
  (List.foldl_hom Prod.fst fun _ _ => rfl).symm

/-- To make a chain of some layers is to add each of them with the lowest precedence. -/
theorem performAll_addLast (c : Chain α) (ls : List (Layer α)) :
    Call.performAll (ls.map .addLast) c = ((c.addAll ls).1, ls.map fun _ => .ok none) := by
  rw [addAll_fst]
  induction ls generalizing c with
  | nil => rfl
  | cons l ls ih =>
    rw [List.map_cons, Call.performAll, ih]
    rfl

/-- Names, positions and searches of a chain agree with its layers. -/
structure Coherent (c : Chain α) : Prop where
  names_nodup : c.names.Nodup
  precedence?_eq : ∀ (i : Nat) x, c.layers[i]? = some x → c.precedence? x.name = some i
  get?_eq : ∀ (i : Nat) name, c.names[i]? = some name →
    ∃ x, c.layers[i]? = some x ∧ c.get? name = some x
  contains_iff : ∀ name, c.contains name = true ↔ name ∈ c.names

theorem coherent (c : Chain α) : Coherent c where
  names_nodup := c.nodup_names
  precedence?_eq i x hx := by
    have hi : i < c.layers.length := (List.getElem?_eq_some_iff.1 hx).1
    have hsplit := splitsAt_of_getElem? c.nodup_names hx
    rw [precedence?, hsplit.indexOf?_eq, List.length_take_of_le (Nat.le_of_lt hi)]
  get?_eq i name hname := by
    rw [names, List.getElem?_map, Option.map_eq_some_iff] at hname
    obtain ⟨x, hx, rfl⟩ := hname
    exact ⟨x, hx, (splitsAt_of_getElem? c.nodup_names hx).find?_eq⟩
  contains_iff := Chain.contains_iff c

/-- A chain is an ordered list of layers with distinct names: whatever it is made of and whatever
is called on it, the answers and the layers are those of the list, and names, positions and
searches agree with the layers. -/
theorem chain_refines_list (start : List (Layer α)) (calls : List (Call α)) :
    Runs [] (start.map .addLast) (start.map fun _ => .ok none) (empty.addAll start).1.layers ∧
      (∀ answers layers,
        Runs (empty.addAll start).1.layers calls answers layers ↔
          (Call.performAll calls (empty.addAll start).1).2 = answers ∧
            (Call.performAll calls (empty.addAll start).1).1.layers = layers) ∧
      Coherent (Call.performAll calls (empty.addAll start).1).1 := by
  have hmade : Runs (empty : Chain α).layers (start.map .addLast) (start.map fun _ => .ok none)
      (empty.addAll start).1.layers := by
    rw [runs_iff, performAll_addLast]
    exact ⟨rfl, rfl⟩
  exact ⟨hmade, fun _ _ => runs_iff, coherent _⟩

/-- A layer moves behind another one; a layer that takes its slot loses the place it had. -/
theorem chain_refines_list_moved :
    Runs [⟨"a", 0⟩, ⟨"b", 1⟩, ⟨"c", 2⟩]
      [.addAfter "b" ⟨"a", 3⟩, .replace "a" ⟨"b", 4⟩, .addBefore "b" ⟨"b", 5⟩, .remove "a"]
      [.ok none, .ok none, .error (.relativeToItself "b"), .ok none]
      [⟨"b", 4⟩, ⟨"c", 2⟩] := by
  have hmade : (empty.addAll [⟨"a", 0⟩, ⟨"b", 1⟩, ⟨"c", 2⟩]).1.layers =
      [⟨"a", 0⟩, ⟨"b", 1⟩, ⟨"c", 2⟩] := by cbv
  rw [← hmade]
  exact ((chain_refines_list _ _).2.1 _ _).2 ⟨rfl, rfl⟩

end LayeredConfig.Chain
